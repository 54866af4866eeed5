import SwiftSource.Proofs.ModifierOrder
import SwiftSource.Proofs.Script.Changes

/-! The layout of a type around its members. Members whose fragments keep their level hand the writer back
where they took it, so each stands one level deeper than the type, whatever stands before it. -/

namespace SwiftSource

open Steps

lemma Field.balanced_changesIn (f : Field) (parent : Option Kind)
    (h : ∀ body ∈ f.initializer, Balanced (Fragment.changes body)) : Balanced (f.changesIn parent) := by
  have hv : Balanced (Field.valueChanges f.initializer) := by
    cases hi : f.initializer with
    | none => exact balanced_nil
    | some body => exact h body hi
  have hg : Balanced (Field.getterChanges f.initializer) := by
    cases hi : f.initializer with
    | none => exact balanced_nil
    | some body => exact (h body hi).wrap
  rw [Field.changesIn_eq]
  split
  · exact hv
  · split
    · exact balanced_nil
    · split
      · exact hg
      · exact hv

lemma Method.balanced_changesIn (m : Method) (parent : Option Kind) (h : Balanced (Fragment.changes m.body)) :
    Balanced (m.changesIn parent) := by
  rw [Method.changesIn_eq]
  split
  · exact balanced_nil
  · exact h.wrap

lemma intercalate_eq_join (s t : String) (l : List String) :
    s.intercalate (t :: l) = t ++ String.join (l.map (s ++ ·)) := by
  induction l generalizing t with
  | nil => simp
  | cons u rest ih => rw [String.intercalate_cons_cons, ih, List.map_cons, String.join_cons, String.append_assoc,
      String.append_assoc]

namespace TypeDeclaration

section Members

variable {kind : Kind} {w : Writer}

lemma printFields_rest {text : Field → String} {l : List Field}
    (h : ∀ f ∈ l, w.Adds (f.printIn (some kind)) (text f)) :
    w.Adds (printFields l kind false) (String.join (l.map fun f => "\n" ++ text f)) := by
  induction l with
  | nil => exact fun v _ _ _ => v.push_empty.symm
  | cons f rest ih =>
    intro v hc ho hl
    have hf := h f List.mem_cons_self (v.push "\n") hc ho hl
    have hrest := ih (fun g hg => h g (List.mem_cons_of_mem f hg)) ((v.push "\n").push (text f)) hc ho hl
    rw [printFields, if_neg Bool.false_ne_true, Writer.newLine, hf, hrest, Writer.push_push, Writer.push_push,
      List.map_cons, String.join_cons, String.append_assoc]

lemma printFields_first {text : Field → String} {l : List Field}
    (h : ∀ f ∈ l, w.Adds (f.printIn (some kind)) (text f)) :
    w.Adds (printFields l kind true) ("\n".intercalate (l.map text)) := by
  cases l with
  | nil => exact fun v _ _ _ => v.push_empty.symm
  | cons f rest =>
    intro v hc ho hl
    have hf := h f List.mem_cons_self v hc ho hl
    have hrest := printFields_rest (fun g hg => h g (List.mem_cons_of_mem f hg)) (v.push (text f)) hc ho hl
    rw [printFields, if_pos rfl, hf, hrest, Writer.push_push, List.map_cons, intercalate_eq_join, List.map_map]
    rfl

lemma printMethods_adds {text : Method → String} {l : List Method}
    (h : ∀ m ∈ l, w.Adds (m.printIn (some kind)) (text m)) :
    w.Adds (printMethods l kind) (String.join (l.map fun m => "\n" ++ text m ++ "\n")) := by
  induction l with
  | nil => exact fun v _ _ _ => v.push_empty.symm
  | cons m rest ih =>
    intro v hc ho hl
    have hm := h m List.mem_cons_self (v.push "\n") hc ho hl
    have hrest := ih (fun g hg => h g (List.mem_cons_of_mem m hg)) (((v.push "\n").push (text m)).push "\n") hc ho hl
    rw [printMethods, Writer.newLine, Writer.newLine, hm, hrest, Writer.push_push, Writer.push_push, Writer.push_push,
      List.map_cons, String.join_cons, String.append_assoc, String.append_assoc]

end Members

lemma members_stay_within {t : TypeDeclaration} {limit level : Nat}
    (hf : ∀ f ∈ t.fields, Balanced (f.changesIn (some t.heading.kind)))
    (hm : ∀ m ∈ t.methods, Balanced (m.changesIn (some t.heading.kind))) (h : StaysWithin limit level t.changes) :
    level + 1 ≤ limit ∧ (∀ f ∈ t.fields, StaysWithin limit (level + 1) (f.changesIn (some t.heading.kind))) ∧
      ∀ m ∈ t.methods, StaysWithin limit (level + 1) (m.changesIn (some t.heading.kind)) := by
  rw [changes_eq] at h
  have hinside := h.of_wrap
  have hmethods : StaysWithin limit (level + 1) _ := hinside.right (by simp [(Balanced.flatMap hf).sum_eq])
  refine ⟨hinside.start_le, fun f h' => ?_, fun m h' => ?_⟩
  · exact StaysWithin.of_mem (f := fun g : Field => g.changesIn (some t.heading.kind)) h' hf hinside.left
  · exact StaysWithin.of_mem (f := fun n : Method => n.changesIn (some t.heading.kind)) h' hm hmethods

end TypeDeclaration

namespace Writer

variable (w : Writer)

def typeComment : Option String → String
  | none => ""
  | some description =>
    w.indentation ++ "/**\n" ++ w.descriptionLines (w.level + 1) description ++ w.indentation ++ "*/\n"

lemma typeDocumentation_eq_push (description : Option String) :
    w.typeDocumentation description = w.push (w.typeComment description) := by
  cases description with
  | none => exact w.push_empty.symm
  | some d => rfl

lemma openBrace_push (h : w.level < deepest) (s : String) :
    (w.push s).openBrace = { w with level := w.level + 1 }.push (s ++ " \x7b") := by
  rw [openBrace, push_push]
  simp only [indent, indentBy, push, Nat.min_eq_left h]

lemma closeBrace_push (s : String) :
    ({ w with level := w.level + 1 }.push s).closeBrace = w.push (s ++ "\n" ++ w.indentation ++ "\x7d") := by
  simp only [← push_push]
  rfl

end Writer

section Members

variable {parent : Option Kind} {w : Writer}

lemma Writer.adds_of_run {op : Writer → Writer} (script : List Modifier → Script) {l : List Int}
    (hrun : ∀ v, op v = v.run (script v.modifierOrder)) (hchanges : (script w.modifierOrder).changes = l)
    (hb : Balanced l) (hr : StaysWithin deepest w.level l) : w.Adds op (w.spelling (script w.modifierOrder)) := by
  intro v hc ho hl
  rw [hrun, ho]
  exact spells_of_balanced (hchanges ▸ hb) (hchanges ▸ hr) v hc ho hl

lemma Field.printIn_adds {f : Field} (hb : Balanced (f.changesIn parent))
    (hr : StaysWithin Writer.deepest w.level (f.changesIn parent)) :
    w.Adds (f.printIn parent) (w.spelling (Script.ofField w.modifierOrder f parent)) :=
  Writer.adds_of_run (fun order => Script.ofField order f parent) (f.printIn_eq_run parent)
    (Script.changes_ofField _ f parent) hb hr

lemma Method.printIn_adds {m : Method} (hb : Balanced (m.changesIn parent))
    (hr : StaysWithin Writer.deepest w.level (m.changesIn parent)) :
    w.Adds (m.printIn parent) (w.spelling (Script.ofMethod w.modifierOrder m parent)) :=
  Writer.adds_of_run (fun order => Script.ofMethod order m parent) (m.printIn_eq_run parent)
    (Script.changes_ofMethod _ m parent) hb hr

end Members

namespace TypeDeclaration

def opening (t : TypeDeclaration) (leading : List Modifier) (w : Writer) : String :=
  w.typeComment t.heading.description ++ w.indentation ++ String.join (leading.map fun m => m.keyword ++ " ") ++
    t.heading.kind.keyword ++ " " ++ t.heading.name ++ TypeName.inheritanceClause t.superType t.protocols ++ " \x7b\n"

def printOpening (t : TypeDeclaration) (w : Writer) : Writer :=
  let prepared := (w.typeDocumentation t.heading.description).modifiers t.heading.modifiers
  let declared := prepared.tokens true [{ text := t.heading.kind.keyword }, { text := t.heading.name }]
  (declared.inheritance t.superType t.protocols).openBrace.newLine

lemma print_eq (t : TypeDeclaration) (w : Writer) :
    t.print w =
      (printMethods t.methods t.heading.kind
        ((printFields t.fields t.heading.kind true (t.printOpening w)).push
          (if t.methods.isEmpty then "" else "\n"))).closeBrace := by
  obtain ⟨heading, methods, fields, superType, protocols⟩ := t
  rw [print]
  cases methods with
  | nil => exact congrArg (fun v => (printMethods [] heading.kind v).closeBrace) (Writer.push_empty _).symm
  | cons => rfl

lemma printOpening_eq (t : TypeDeclaration) {w : Writer} (h : w.level < Writer.deepest) :
    t.printOpening w =
      { w with level := w.level + 1 }.push (t.opening (w.orderedModifiers t.heading.modifiers) w) := by
  simp only [printOpening, Writer.typeDocumentation_eq_push, Writer.modifiers_eq_push, Writer.tokens_eq_push,
    Token.joined_pair, Writer.inheritance_eq_push, Writer.push_push, Writer.openBrace_push w h, Writer.newLine]
  congr 1
  rw [opening, show " \x7b\n" = " \x7b" ++ "\n" from rfl]
  simp only [String.append_assoc]
  rfl

/-- Fields stand below one another, methods between line breaks, and the brace closes where the type began. No
writer goes below `Writer.deepest`, so the type must fit above it. -/
theorem print_layout (t : TypeDeclaration) (w : Writer)
    (hf : ∀ f ∈ t.fields, ∀ body ∈ f.initializer, Balanced (Fragment.changes body))
    (hm : ∀ m ∈ t.methods, Balanced (Fragment.changes m.body)) (hr : StaysWithin Writer.deepest w.level t.changes) :
    ∃ (leading : List Modifier) (fieldText : Field → String) (methodText : Method → String),
      t.heading.modifiers.IsListing w.modifierOrder leading ∧
      (∀ f ∈ t.fields, { w with level := w.level + 1 }.Adds (f.printIn (some t.heading.kind)) (fieldText f)) ∧
      (∀ m ∈ t.methods, { w with level := w.level + 1 }.Adds (m.printIn (some t.heading.kind)) (methodText m)) ∧
      t.print w = w.push (t.opening leading w ++ "\n".intercalate (t.fields.map fieldText) ++
        (if t.methods.isEmpty then "" else "\n") ++ String.join (t.methods.map fun m => "\n" ++ methodText m ++ "\n") ++
        "\n" ++ w.indentation ++ "\x7d") := by
  have hfields : ∀ f ∈ t.fields, Balanced (f.changesIn (some t.heading.kind)) :=
    fun f h => f.balanced_changesIn _ (hf f h)
  have hmethods : ∀ m ∈ t.methods, Balanced (m.changesIn (some t.heading.kind)) :=
    fun m h => m.balanced_changesIn _ (hm m h)
  obtain ⟨hlevel, hfr, hmr⟩ := members_stay_within hfields hmethods hr
  have hfa := fun f h => Field.printIn_adds (w := { w with level := w.level + 1 }) (hfields f h) (hfr f h)
  have hma := fun m h => Method.printIn_adds (w := { w with level := w.level + 1 }) (hmethods m h) (hmr m h)
  refine ⟨_, _, _, w.isListing_orderedModifiers t.heading.modifiers, hfa, hma, ?_⟩
  have hfilled := fun s => printFields_first hfa ({ w with level := w.level + 1 }.push s) rfl rfl rfl
  have hspaced := fun s => printMethods_adds hma ({ w with level := w.level + 1 }.push s) rfl rfl rfl
  rw [print_eq, t.printOpening_eq hlevel, hfilled, Writer.push_push, Writer.push_push, hspaced, Writer.push_push,
    Writer.closeBrace_push, ← String.append_assoc]

theorem print_layout_account :
    let body : Fragment := [.ofText "do", .openBrace, .nested [.ofText "audit()"], .closeBrace]
    let balance : Field :=
      { heading := .named "balance" .mutable, type := some .integer, initializer := some body, isComputed := true,
        parentHint := none }
    let close : Method :=
      { heading := .named "close" .method, parameters := [], returnType := none, body, parentHint := none }
    let heading : Heading := { (.named "Account" .classType : Heading) with
      modifiers := .ofList [.final, .publicAccess], description := some "Held by a customer." }
    let t : TypeDeclaration :=
      { heading, methods := [close], fields := [balance], superType := none, protocols := [.named "Codable"] }
    ∃ fieldText methodText,
      Writer.Adds { level := 1 } (balance.printIn (some .classType)) fieldText ∧
      Writer.Adds { level := 1 } (close.printIn (some .classType)) methodText ∧
      t.print {} = Writer.push {}
        ("/**\n    Held by a customer.\n*/\npublic final class Account: Codable \x7b\n" ++ fieldText ++ "\n" ++
          ("\n" ++ methodText ++ "\n") ++ "\n" ++ Writer.indentation {} ++ "\x7d") := by
  intro body balance close heading t
  have hbody : Balanced (Fragment.changes body) := by decide
  have hroom : StaysWithin Writer.deepest 0 t.changes := by decide
  have hf : ∀ f ∈ t.fields, ∀ b ∈ f.initializer, Balanced (Fragment.changes b) := by
    simpa [t, balance] using hbody
  have hm : ∀ m ∈ t.methods, Balanced (Fragment.changes m.body) := by
    simpa [t, close] using hbody
  obtain ⟨leading, fieldText, methodText, hleading, hfield, hmethod, h⟩ := t.print_layout {} hf hm hroom
  have hlisting : heading.modifiers.IsListing Modifier.guideline [.publicAccess, .final] := by
    refine ⟨by decide, fun m => ?_, by decide⟩
    cases m <;> decide
  have hsorted : leading = [.publicAccess, .final] :=
    (Writer.eq_orderedModifiers_of_isListing (w := {}) hleading).trans
      (Writer.eq_orderedModifiers_of_isListing (w := {}) hlisting).symm
  have hopening : t.opening [.publicAccess, .final] {} =
      "/**\n    Held by a customer.\n*/\npublic final class Account: Codable \x7b\n" := by
    decide +kernel
  refine ⟨fieldText balance, methodText close, hfield balance List.mem_cons_self,
    hmethod close List.mem_cons_self, ?_⟩
  rw [hsorted, hopening] at h
  simpa [t] using h

end TypeDeclaration

end SwiftSource
