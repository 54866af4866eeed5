import SwiftSource.Proofs.Script.Changes

/-! Printing only adds, and what it adds hangs neither on the text that is there nor on the unit of
indentation. Deeper down the same segments are added deeper. -/

namespace SwiftSource.Piece

open Steps

theorem print_adds_segments (p : Piece) (order : List Modifier) :
    ∃ (segments : Nat → List Segment) (final : Nat → Nat),
      (∀ w : Writer, w.modifierOrder = order →
        p.print w = { w with
          text := w.text ++ Segment.renderAll w.conventions.indent (segments w.level)
          level := final w.level }) ∧
      (NeverDrops p.changes → ∀ level more, StaysWithin Writer.deepest (level + more) p.changes →
        segments (level + more) = (segments level).map (Segment.raise more) ∧
          final (level + more) = final level + more) := by
  have hchanges := Script.changes_ofPiece order p
  refine ⟨fun level => Script.segments level (Script.ofPiece order p),
    fun level => Script.levelAfter level (Script.ofPiece order p), ?_, ?_⟩
  · rintro w rfl
    rw [p.print_eq_run, Writer.run_eq]
  · intro hdrop level more hroom
    have hlow : Fits Writer.deepest level (Script.changes (Script.ofPiece order p)) :=
      hchanges ▸ hdrop.fits_of_add hroom
    have hhigh : Fits Writer.deepest (level + more) (Script.changes (Script.ofPiece order p)) :=
      hchanges ▸ hdrop.fits hroom
    have h₁ := Script.levelAfter_eq hlow
    have h₂ := Script.levelAfter_eq hhigh
    exact ⟨Script.segments_add hlow hhigh, by dsimp only; omega⟩

theorem print_adds_segments_braced :
    let p : Piece := .fragment [.openBrace, .nested [.ofText "return"], .closeBrace]
    ∃ segments : Nat → List Segment,
      (∀ w : Writer, w.modifierOrder = Modifier.guideline →
        (p.print w).text = w.text ++ Segment.renderAll w.conventions.indent (segments w.level)) ∧
      segments 2 = (segments 0).map (Segment.raise 2) := by
  intro p
  have hdrop : NeverDrops p.changes := by decide
  have hroom : StaysWithin Writer.deepest (0 + 2) p.changes := by decide
  obtain ⟨segments, final, hprint, hraise⟩ := p.print_adds_segments Modifier.guideline
  refine ⟨segments, fun w ho => ?_, (hraise hdrop 0 2 hroom).1⟩
  rw [hprint w ho]

end SwiftSource.Piece
