import Mathlib.Data.List.Nodup
import SwiftSource.Proofs.DraftMeaning

/-! The protocols that a type adopts. Equal names are adopted once, and a name is compared with all that it carries.
Main statement: a protocol stands twice behind a type just if names of one text were added that differ in the rest. -/

namespace SwiftSource

lemma TypeName.eq_iff_of_text_eq {p q : TypeName} (h : p.text = q.text) :
    p = q ↔ p.isOptional = q.isOptional ∧ p.imports = q.imports := by
  constructor
  · rintro rfl
    exact ⟨rfl, rfl⟩
  · rintro ⟨ho, hi⟩
    obtain ⟨keyword, isOptional, imports⟩ := p
    obtain ⟨keyword', isOptional', imports'⟩ := q
    obtain rfl : isOptional = isOptional' := ho
    obtain rfl : imports = imports' := hi
    have hkeyword : keyword = keyword' := by
      cases isOptional with
      | true => exact String.append_left_inj "?" |>.mp h
      | false => exact h
    rw [hkeyword]

lemma mem_firstOfEach_id {α : Type} [DecidableEq α] {l : List α} {a : α} : a ∈ firstOfEach id l ↔ a ∈ l := by
  have h := forall_firstOfEach_ne id l a
  rw [← not_iff_not]
  constructor
  · intro hfirst
    exact fun hl => h.mp (fun b hb he => hfirst (he ▸ hb)) a hl rfl
  · intro hl
    exact fun hfirst => h.mpr (fun b hb he => hl (he ▸ hb)) a hfirst rfl

namespace TypeDraft

/-- Nothing but its mark and its modules sets a name apart from others of its text, and a type that adopts both names
lists the text twice. -/
theorem protocols_named_once (raw : String) (kind : Kind) (edits : List Edit) :
    let t := ((named raw kind).editAll edits).build
    let added := edits.flatMap Edit.protocolsOf
    let listed := t.protocols.map TypeName.text
    (∀ p, p ∈ t.protocols ↔ p ∈ added) ∧ t.protocols.Nodup ∧
      (listed.Nodup ↔ ∀ p ∈ added, ∀ q ∈ added, p.text = q.text →
        p.isOptional = q.isOptional ∧ p.imports = q.imports) ∧
      ∀ w : Writer, (w.inheritance t.superType t.protocols).text = w.text ++
        match t.superType.toList.map TypeName.text ++ listed with
        | [] => ""
        | names => ": " ++ ", ".intercalate names := by
  intro t added listed
  have hprotocols : t.protocols = firstOfEach id added := (build_outcome raw kind edits).protocols
  have hmem : ∀ p, p ∈ t.protocols ↔ p ∈ added := fun p => by rw [hprotocols, mem_firstOfEach_id]
  have hnodup : t.protocols.Nodup := by
    rw [hprotocols, ← List.map_id (firstOfEach id added)]
    exact nodup_firstOfEach id added
  refine ⟨hmem, hnodup, ?_, fun w => ?_⟩
  · rw [List.nodup_map_iff_inj_on hnodup]
    simp only [hmem]
    constructor
    · intro h p hp q hq htext
      exact (TypeName.eq_iff_of_text_eq htext).mp (h p hp q hq htext)
    · intro h p hp q hq htext
      exact (TypeName.eq_iff_of_text_eq htext).mpr (h p hp q hq htext)
  · rw [Writer.inheritance, ← List.map_append]
    cases t.superType.toList ++ t.protocols with
    | nil => exact String.append_empty.symm
    | cons first rest => rfl

theorem protocols_named_twice :
    ¬∀ (raw : String) (kind : Kind) (edits : List Edit),
      (((named raw kind).editAll edits).build.protocols.map TypeName.text).Nodup := by
  intro h
  have hcodable := h "user" .structType
    [.protocol ((TypeName.named "Codable").importing "Foundation"), .protocol (.named "Codable")]
  revert hcodable
  decide

end TypeDraft

end SwiftSource
