import SwiftSource.Proofs.Script.Layout
import SwiftSource.SourceFile

/-! The text of a file, section by section. Whatever stands in the writer of the file or around a declaration, the
declaration is printed as it is printed alone. -/

namespace SwiftSource

def importSection (names : List String) : String :=
  if names = [] then "" else String.join (names.map fun name => "import " ++ name ++ "\n") ++ "\n"

namespace Writer

lemma imports_eq_push (w : Writer) (modules : Imports) : w.imports modules = w.push (importSection modules.toList) := by
  rw [imports, importSection]
  cases h : modules.toList with
  | nil => simp [SortedSet.isEmpty, h]
  | cons => simp [SortedSet.isEmpty, h]

lemma pieces_eq_push (w : Writer) (l : List Piece) :
    w.pieces l = w.push ("\n\n".intercalate (l.map w.alone) ++ "\n") := by
  rw [pieces, newLine, push_push]

/-- An empty writer leaves nothing to a piece but the unit of indentation and the order of modifiers. -/
lemma text_print_of_empty {w : Writer} (ht : w.text = "") (hl : w.level = 0) (p : Piece) :
    (p.print w).text =
      Segment.renderAll w.conventions.indent (Script.segments 0 (Script.ofPiece w.modifierOrder p)) := by
  rw [p.print_eq_run, run_eq, ht, hl, String.empty_append]

end Writer

namespace SourceFile

def header (f : SourceFile) : String :=
  (f.writer.fresh.banner { f.banner with framework := f.framework } f.headings).text

def contents (f : SourceFile) : String :=
  "\n\n".intercalate (f.declarations.map fun d => f.writer.alone d.toPiece) ++ "\n"

lemma render_eq (f : SourceFile) :
    f.render = f.header ++ importSection f.requiredImports.toList ++ f.contents := by
  rw [render, Writer.pieces_eq_push, Writer.imports_eq_push, List.map_map]
  rfl

lemma requiredImports_perm {f g : SourceFile} (h : f.declarations.Perm g.declarations) :
    f.requiredImports = g.requiredImports := by
  apply SortedSet.ext
  intro x
  have hmem := fun s => (h.map Declaration.requiredImports).mem_iff (a := s)
  simp only [requiredImports, SortedSet.mem_unions, hmem]

theorem render_separates (c : Conventions) (order : List Modifier) :
    ∃ text : Declaration → String,
      (∀ (d : Declaration) (today : Date),
        (d.print { conventions := c, today, modifierOrder := order }).text = text d) ∧
      (∀ f : SourceFile, f.writer.conventions = c → f.writer.modifierOrder = order →
        f.render = f.header ++ importSection f.requiredImports.toList ++
          ("\n\n".intercalate (f.declarations.map text) ++ "\n") ∧
        ∀ (leftover : String) (level : Nat),
          render { f with writer := { f.writer with text := leftover, level } } = f.render) ∧
      ∀ f g : SourceFile, f.declarations.Perm g.declarations →
        importSection f.requiredImports.toList = importSection g.requiredImports.toList := by
  refine ⟨fun d => Segment.renderAll c.indent (Script.segments 0 (Script.ofPiece order d.toPiece)), ?_, ?_, ?_⟩
  · intro d today
    exact Writer.text_print_of_empty rfl rfl d.toPiece
  · rintro f rfl rfl
    have halone : ∀ d : Declaration, f.writer.alone d.toPiece = _ :=
      fun d => Writer.text_print_of_empty (w := f.writer.fresh) rfl rfl d.toPiece
    refine ⟨?_, fun _ _ => rfl⟩
    rw [f.render_eq, contents]
    simp only [halone]
    rfl
  · intro f g h
    rw [requiredImports_perm h]

theorem render_separates_unbalanced :
    let opened : Declaration := .method
      { heading := .named "opened" .method, parameters := [], returnType := some .date,
        body := [.openBrace, .indent, .ofText "wait()"], parentHint := none }
    let closed : Declaration := .field
      { heading := .named "closed" .constant, type := some .boolean, initializer := some [.closeBrace],
        isComputed := false, parentHint := none }
    let w : Writer := { text := "left over", level := 3, conventions := { indent := .tab } }
    let f : SourceFile := { banner := {}, declarations := [opened, closed], writer := w }
    let g : SourceFile := { banner := {}, declarations := [closed, opened], writer := w }
    ∃ text : Declaration → String,
      f.render = f.header ++ importSection f.requiredImports.toList ++
        ("\n\n".intercalate [text opened, text closed] ++ "\n") ∧
      g.render = g.header ++ importSection f.requiredImports.toList ++
        ("\n\n".intercalate [text closed, text opened] ++ "\n") := by
  intro opened closed w f g
  obtain ⟨text, -, hfile, hperm⟩ := render_separates { indent := .tab } Modifier.guideline
  have hswap : f.declarations.Perm g.declarations := List.Perm.swap closed opened []
  refine ⟨text, (hfile f rfl rfl).1, ?_⟩
  rw [hperm f g hswap]
  exact (hfile g rfl rfl).1

end SourceFile

end SwiftSource
