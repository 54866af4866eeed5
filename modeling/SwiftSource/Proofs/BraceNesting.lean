import SwiftSource.Proofs.Braces.Fragments

/-! Braces nest in whatever is printed of structured fragments and declarations, at every level and under every
parent. -/

namespace SwiftSource

open Braces Steps

variable {order : List Modifier}

namespace Field

lemma nests_ofValue {f : Field} (h : f.Structured) : (Script.ofValue order f.initializer).Nests := by
  cases hi : f.initializer with
  | none => exact Script.nests_nil
  | some body => exact ((h.initializer body hi).nests false).text (Token.free_written _ (by decide) _)

lemma nests_ofGetter {f : Field} (h : f.Structured) : (Script.ofGetter order f.initializer).Nests := by
  cases hi : f.initializer with
  | none => exact Script.nests_nil
  | some body =>
    have hfragment : (Script.ofFragment order body true).Nests := (h.initializer body hi).nests true
    have hbody := Script.nests_nextLine.append hfragment
    simpa only [Script.ofGetter, List.append_assoc] using hbody.braced

lemma free_signature (f : Field) (h : f.Structured) (keyword : Kind) : ∀ t ∈ f.signature keyword, Free t.text := by
  refine List.forall_mem_cons.mpr ⟨keyword.free_keyword, List.forall_mem_cons.mpr ⟨h.heading.name, ?_⟩⟩
  cases ht : f.type with
  | none => exact List.forall_mem_nil _
  | some type =>
    have htype : ∀ t ∈ [{ text := type.text }], Free (Token.text t) :=
      List.forall_mem_singleton.mpr (TypeName.free_text (h.type type ht))
    exact List.forall_mem_cons.mpr ⟨by decide, htype⟩

/-- The braces around the accessors of a requirement are written as one text, which closes what it opens. -/
lemma balanced_requirement (f : Field) (h : f.Structured) :
    Balanced (steps (Token.joined true (f.signature .mutable ++ [f.accessors]))) := by
  have hsignature : (f.signature .mutable).flatMap (fun t => steps t.text) = [] :=
    List.flatMap_eq_nil_iff.mpr fun t ht => (f.free_signature h .mutable t ht).steps_eq
  rw [Token.steps_joined, List.flatMap_append, hsignature, List.nil_append, List.flatMap_singleton, accessors]
  split <;> decide

lemma nests_ofField (f : Field) (h : f.Structured) (parent : Option Kind) :
    (Script.ofField order f parent).Nests := by
  have hdoc := Script.nests_fieldDocumentation h.heading.description
  have hvalue : (Script.ofValue order f.initializer).Nests := nests_ofValue h
  have hgetter : (Script.ofGetter order f.initializer).Nests := nests_ofGetter h
  have hcase : ∀ t ∈ [{ text := "case" }, { text := f.heading.name }], Free (Token.text t) :=
    List.forall_mem_cons.mpr ⟨by decide, List.forall_mem_singleton.mpr h.heading.name⟩
  have hsignature := f.free_signature h
  have hrequirement := f.balanced_requirement h
  obtain ⟨heading, type, initializer, isComputed, parentHint⟩ := f
  rw [Script.ofField]
  apply hdoc.append
  split
  · exact (hvalue.text (Token.free_joined hcase true)).cons rfl
  · refine (Script.nests_modifiers order heading.modifiers).append ?_
    split
    · rwa [Script.Nests, Script.braceSteps, List.flatMap_singleton]
    · refine Script.Nests.text ?_ (Token.free_joined (hsignature heading.kind) true)
      split
      · exact hgetter
      · exact hvalue

end Field

lemma Parameter.free_text (p : Parameter) (h : p.BraceFree) : Free p.text := by
  refine Token.free_joined (List.forall_mem_append.mpr ⟨?_, ?_⟩) true
  · split
    · exact List.forall_mem_singleton.mpr Kind.mutable.free_keyword
    · exact List.forall_mem_nil _
  · refine List.forall_mem_cons.mpr ⟨h.heading.name, List.forall_mem_cons.mpr ⟨by decide, ?_⟩⟩
    exact List.forall_mem_singleton.mpr (TypeName.free_text h.type)

namespace Method

lemma free_parameterClause (m : Method) (h : m.Structured) (w : Writer) : Free (m.parameterClause w) := by
  rw [m.parameterClause_eq]
  have hparameters : Free (", ".intercalate (m.parameters.map Parameter.text)) := by
    apply free_intercalate (by decide)
    intro s hs
    obtain ⟨p, hp, rfl⟩ := List.mem_map.mp hs
    exact p.free_text (h.parameters p hp)
  exact (Free.append (by decide) hparameters).append (by decide)

lemma free_signature (m : Method) (h : m.Structured) (w : Writer) : ∀ t ∈ m.signature w, Free t.text := by
  have heffects : ∀ t ∈ m.effects.map fun e => { text := e.keyword }, Free (Token.text t) :=
    List.forall_mem_map.mpr fun e _ => e.free_keyword
  refine List.forall_mem_append.mpr ⟨List.forall_mem_append.mpr ⟨?_, List.forall_mem_cons.mpr ⟨h.heading.name,
    List.forall_mem_cons.mpr ⟨m.free_parameterClause h w, heffects⟩⟩⟩, ?_⟩
  · split
    · exact List.forall_mem_nil _
    · exact List.forall_mem_singleton.mpr Kind.method.free_keyword
  · cases hr : m.returnType with
    | none => exact List.forall_mem_nil _
    | some type =>
      have htype : ∀ t ∈ [{ text := type.text }], Free (Token.text t) :=
        List.forall_mem_singleton.mpr (TypeName.free_text (h.returnType type hr))
      exact List.forall_mem_cons.mpr ⟨by decide, htype⟩

lemma nests_ofMethod (m : Method) (h : m.Structured) (parent : Option Kind) :
    (Script.ofMethod order m parent).Nests := by
  have hdoc := Script.nests_methodDocumentation h.heading.description h.parameters
  have hbody : (Script.openBrace ++ (Script.ofFragment order m.body true ++ Script.closeBrace)).Nests :=
    (h.body.nests true).braced
  have hsignature := m.free_signature h {}
  obtain ⟨heading, parameters, returnType, body, parentHint⟩ := m
  rw [Script.ofMethod, List.append_assoc, List.append_assoc]
  apply hdoc.append
  apply (Script.nests_modifiers order _).append
  refine Script.Nests.text ?_ (Token.free_joined hsignature true)
  split
  · exact Script.nests_nil
  · exact hbody

end Method

namespace TypeDeclaration

lemma nests_ofFields {l : List Field} (h : ∀ f ∈ l, f.Structured) (kind : Kind) (isFirst : Bool) :
    (Script.ofFields order l kind isFirst).Nests := by
  induction l generalizing isFirst with
  | nil => exact Script.nests_nil
  | cons f rest ih =>
    have hfield : (Script.ofField order f (some kind)).Nests := f.nests_ofField (h f List.mem_cons_self) _
    have hf := hfield.append (ih (fun g hg => h g (List.mem_cons_of_mem f hg)) false)
    rw [Script.ofFields, List.append_assoc]
    split
    · exact hf
    · exact hf.text (by decide)

lemma nests_ofMethods {l : List Method} (h : ∀ m ∈ l, m.Structured) (kind : Kind) :
    (Script.ofMethods order l kind).Nests := by
  induction l with
  | nil => exact Script.nests_nil
  | cons m rest ih =>
    have hrest := ih fun n hn => h n (List.mem_cons_of_mem m hn)
    have hm : (Script.ofMethod order m (some kind)).Nests := m.nests_ofMethod (h m List.mem_cons_self) _
    exact (hm.append (hrest.text (by decide))).text (by decide)

lemma nests_ofType (t : TypeDeclaration) (h : t.Structured) : (Script.ofType order t).Nests := by
  have hdoc := Script.nests_typeDocumentation h.heading.description
  have hname : ∀ u ∈ [{ text := t.heading.kind.keyword }, { text := t.heading.name }], Free (Token.text u) :=
    List.forall_mem_cons.mpr ⟨t.heading.kind.free_keyword, List.forall_mem_singleton.mpr h.heading.name⟩
  have hclause := TypeName.free_inheritanceClause h.superType h.protocols
  have hfields : (Script.ofFields order t.fields t.heading.kind true).Nests := nests_ofFields h.fields _ true
  have hmethods : (Script.ofMethods order t.methods t.heading.kind).Nests := nests_ofMethods h.methods _
  obtain ⟨heading, methods, fields, superType, protocols⟩ := t
  have hspace : (if methods.isEmpty then [] else [Stroke.text "\n"] : Script).Nests := by
    split
    · exact Script.nests_nil
    · exact Script.nests_nil.text (by decide)
  have hmembers := ((hfields.append (hspace.append hmethods)).text (t := "\n") (by decide)).braced
  have hopening := hdoc.append ((Script.nests_modifiers order heading.modifiers).append
    ((hmembers.text hclause).text (Token.free_joined hname true)))
  simpa only [Script.ofType, List.append_assoc, List.cons_append] using hopening

end TypeDeclaration

/-- To every text the operation adds one in which braces nest. -/
def Writer.AddsNest (op : Writer → Writer) : Prop := ∀ w, ∃ s, (op w).text = w.text ++ s ∧ Nest s

lemma Writer.nest_of_run {w u : Writer} {script : Script} (hrun : u = w.run script) (h : script.Nests) :
    ∃ s, u.text = w.text ++ s ∧ Nest s := by
  refine ⟨w.spelling script, ?_, nest_of_balanced ?_⟩
  · rw [hrun, run_eq]
    rfl
  · rw [spelling, Script.steps_renderAll]
    exact h

theorem print_nests :
    (∀ f : Fragment, f.Structured → Writer.AddsNest f.print) ∧
      (∀ f : Field, f.Structured → ∀ parent, Writer.AddsNest (f.printIn parent)) ∧
      (∀ m : Method, m.Structured → ∀ parent, Writer.AddsNest (m.printIn parent)) ∧
      ∀ t : TypeDeclaration, t.Structured → Writer.AddsNest t.print := by
  refine ⟨fun f h w => ?_, fun f h parent w => ?_, fun m h parent w => ?_, fun t h w => ?_⟩
  · exact Writer.nest_of_run (Fragment.printFrom_eq_run f true w) (h.nests true)
  · exact Writer.nest_of_run (f.printIn_eq_run parent w) (f.nests_ofField h parent)
  · exact Writer.nest_of_run (m.printIn_eq_run parent w) (m.nests_ofMethod h parent)
  · exact Writer.nest_of_run (t.print_eq_run w) (t.nests_ofType h)

theorem print_nests_closure :
    ∃ s, (Fragment.print (.closure "item" true none (.switchOn "item" [("0", [.ofText "return"])] none)) {}).text = s ∧
      Nest s := by
  have hreturn : Fragment.Structured [.ofText "return"] := .token (by decide)
  have hswitch : Fragment.Structured (.switchOn "item" [("0", [.ofText "return"])] none) :=
    .switchOn (by decide) (List.forall_mem_singleton.mpr (by decide)) (List.forall_mem_singleton.mpr hreturn)
      fun _ h => absurd h (Option.not_mem_none _)
  have hclosure : Fragment.Structured (.closure "item" true none (.switchOn "item" [("0", [.ofText "return"])] none)) :=
    .closure (by decide) (fun _ h => absurd h (Option.not_mem_none _)) hswitch
  obtain ⟨s, hs, hnest⟩ := print_nests.1 _ hclosure {}
  exact ⟨s, hs.trans String.empty_append, hnest⟩

end SwiftSource
