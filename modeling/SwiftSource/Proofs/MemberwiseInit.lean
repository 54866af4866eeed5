import SwiftSource.Proofs.AccessLevels
import SwiftSource.Proofs.CleanNames
import SwiftSource.Proofs.DraftMeaning
import Mathlib.Data.List.Forall2
import Mathlib.Data.List.Nodup

/-! The memberwise initializer that a draft of a structure gets in the end. Main statements: when it is added and what
it is made of, and how the names of its parameters are related to those of the fields that they are assigned to. -/

namespace SwiftSource.TypeDraft

def assignment (f : Field) : Instruction := .nested (Fragment.ofText ("self." ++ f.name ++ " = " ++ f.name))

structure IsSetTo (f : Field) (p : Parameter) : Prop where
  name : p.name = Naming.memberName f.name
  type : f.type = some p.type
  description : p.heading.description = f.heading.description

lemma name_named_field (raw : String) : (Field.named raw).name = Naming.memberName raw := by
  simp only [Field.name, Field.named, Heading.named, Naming.memberName]

lemma name_named_parameter (raw : String) (type : TypeName) :
    (Parameter.named raw type).name = Naming.memberName raw := by
  simp only [Parameter.name, Parameter.named, Heading.named, Naming.memberName]

section Initializer

variable (t : TypeDraft)

def takes (f : Field) : Bool := f.type.isSome && t.initializes f

lemma isSetTo_initParameter {f : Field} {type : TypeName} (h : f.type = some type) :
    IsSetTo f (initParameter f type) := by
  have hname := name_named_parameter f.name type
  rw [initParameter]
  cases hdescription : f.heading.description with
  | none => exact { name := hname, type := h, description := hdescription.symm }
  | some text => exact { name := (Heading.note_name _ _).trans hname, type := h, description := hdescription.symm }

lemma addAssignment_of_not_takes {f : Field} (h : t.takes f = false) (init : Method) :
    t.addAssignment init f = init := by
  rw [addAssignment]
  cases htype : f.type with
  | none => rfl
  | some type =>
    have hinit : t.initializes f = false := by simpa [takes, htype] using h
    simp [hinit]

lemma addAssignment_of_takes {f : Field} (h : t.takes f = true) (init : Method) :
    ∃ p, IsSetTo f p ∧ t.addAssignment init f = (init.withParameter p).withCode [assignment f] := by
  obtain ⟨htype, hinit⟩ := Bool.and_eq_true_iff.mp h
  obtain ⟨type, htype⟩ := Option.isSome_iff_exists.mp htype
  refine ⟨initParameter f type, isSetTo_initParameter htype, ?_⟩
  rw [addAssignment, htype]
  exact if_pos hinit

lemma foldl_addAssignment (fields : List Field) (init : Method) :
    ∃ parameters, List.Forall₂ IsSetTo (fields.filter t.takes) parameters ∧
      fields.foldl t.addAssignment init =
        (init.withParameters parameters).withCode ((fields.filter t.takes).map assignment) := by
  induction fields generalizing init with
  | nil =>
    cases init
    exact ⟨[], .nil, by simp [Method.withParameters, Method.withCode]⟩
  | cons f rest ih =>
    cases htakes : t.takes f with
    | false =>
      rw [List.foldl_cons, t.addAssignment_of_not_takes htakes, List.filter_cons_of_neg (Bool.eq_false_iff.mp htakes)]
      exact ih init
    | true =>
      obtain ⟨p, hp, hadd⟩ := t.addAssignment_of_takes htakes init
      obtain ⟨parameters, hparameters, hrest⟩ := ih (t.addAssignment init f)
      rw [List.foldl_cons, hrest, hadd, List.filter_cons_of_pos htakes]
      refine ⟨p :: parameters, .cons hp hparameters, ?_⟩
      simp [Method.withParameter, Method.withParameters, Method.withCode]

def plainInit : Method :=
  match t.heading.modifiers.accessLevel with
  | none => .named "init"
  | some access => (Method.named "init").note (.modifier access)

lemma memberwiseInit_eq_foldl : t.memberwiseInit = t.fields.foldl t.addAssignment t.plainInit := rfl

lemma plainInit_parameters : t.plainInit.parameters = [] := by rw [plainInit]; split <;> rfl

lemma plainInit_body : t.plainInit.body = [] := by rw [plainInit]; split <;> rfl

lemma mem_plainInit_modifiers (a : Modifier) :
    a ∈ t.plainInit.heading.modifiers ↔ t.heading.modifiers.IsMostVisible a := by
  rw [← ModifierSet.accessLevel_eq_some, plainInit]
  cases t.heading.modifiers.accessLevel with
  | none => exact ⟨fun h => absurd h (SortedSet.not_mem_empty a), fun h => nomatch h⟩
  | some access =>
    refine SortedSet.mem_insert.trans ((or_iff_left (SortedSet.not_mem_empty a)).trans ?_)
    rw [Option.some_inj, eq_comm]

lemma mem_memberwiseInit_modifiers (a : Modifier) :
    a ∈ t.memberwiseInit.heading.modifiers ↔ t.heading.modifiers.IsMostVisible a := by
  rw [memberwiseInit_eq_foldl, foldl_addAssignment_heading, mem_plainInit_modifiers]

lemma memberwiseInit_members :
    List.Forall₂ IsSetTo (t.fields.filter t.takes) t.memberwiseInit.parameters ∧
      t.memberwiseInit.body = (t.fields.filter t.takes).map assignment := by
  obtain ⟨parameters, hparameters, hfold⟩ := t.foldl_addAssignment t.fields t.plainInit
  rw [memberwiseInit_eq_foldl, hfold]
  simpa [Method.withParameters, Method.withCode, plainInit_parameters, plainInit_body] using hparameters

lemma takes_iff {f : Field} :
    t.takes f = true ↔ f.type ≠ none ∧ .staticMember ∉ f.heading.modifiers ∧
      ∃ a, t.heading.modifiers.IsEffective a ∧ f.heading.modifiers.IsEffective a := by
  rw [takes, initializes, ← ModifierSet.sameAccess_iff]
  simp only [Bool.and_eq_true, decide_eq_true_eq, Option.isSome_iff_ne_none]
  rw [and_comm (a := ModifierSet.SameAccess _ _)]

end Initializer

structure AddsInit (kind : Kind) (edits : List Edit) : Prop where
  isStruct : kind = .structType
  notForbidden : .withoutDefaultInit ∉ edits
  notGiven : ∀ m ∈ edits.flatMap Edit.methodsOf, m.name ≠ "init"

lemma all_keepsInit {edits : List Edit} : edits.all Edit.keepsInit = true ↔ .withoutDefaultInit ∉ edits := by
  rw [List.all_eq_true]
  constructor
  · exact fun h hmem => Bool.noConfusion (h _ hmem)
  · intro h e he
    cases e with
    | withoutDefaultInit => exact absurd he h
    | _ => rfl

lemma synthesizesInit_iff {raw : String} {kind : Kind} {edits : List Edit} :
    ((named raw kind).editAll edits).synthesizesInit = true ↔ AddsInit kind edits := by
  have hgiven : (firstOfEach Method.name (edits.flatMap Edit.methodsOf)).all (·.name ≠ "init") = true ↔
      ∀ m ∈ edits.flatMap Edit.methodsOf, m.name ≠ "init" := by
    simpa only [List.all_eq_true, decide_eq_true_eq] using forall_firstOfEach_ne Method.name _ "init"
  rw [editAll_named, synthesizesInit, Bool.and_eq_true, Bool.and_eq_true, all_keepsInit, decide_eq_true_iff, hgiven]
  constructor
  · rintro ⟨⟨hkeeps, hkind⟩, hnew⟩
    exact { isStruct := hkind, notForbidden := hkeeps, notGiven := hnew }
  · rintro ⟨hkind, hkeeps, hnew⟩
    exact ⟨⟨hkeeps, hkind⟩, hnew⟩

lemma build_methods_eq {raw : String} {kind : Kind} {edits : List Edit} :
    ((named raw kind).editAll edits).build.methods =
      firstOfEach Method.name (edits.flatMap Edit.methodsOf) ++ ((named raw kind).editAll edits).closingInit := by
  rw [editAll_named]
  rfl

lemma closingInit_of_addsInit {raw : String} {kind : Kind} {edits : List Edit} (h : AddsInit kind edits) :
    ((named raw kind).editAll edits).closingInit = [((named raw kind).editAll edits).memberwiseInit] :=
  if_pos (synthesizesInit_iff.mpr h)

lemma getLast?_build_methods (raw : String) {kind : Kind} {edits : List Edit} (h : AddsInit kind edits) :
    ((named raw kind).editAll edits).build.methods.getLast? = some ((named raw kind).editAll edits).memberwiseInit := by
  rw [build_methods_eq, closingInit_of_addsInit h, List.getLast?_concat]

/-- An initializer of a type from those of its fields that are as visible as the type and belong to its instances. -/
structure IsMemberwise (t : TypeDeclaration) (init : Method) : Prop where
  name : init.name = "init"
  modifiers : ∀ a, a ∈ init.heading.modifiers ↔ t.heading.modifiers.IsMostVisible a
  members : ∃ kept : List Field, kept.Sublist t.fields ∧
    (∀ f, f ∈ kept ↔ f ∈ t.fields ∧ f.type ≠ none ∧ .staticMember ∉ f.heading.modifiers ∧
      ∃ a, t.heading.modifiers.IsEffective a ∧ f.heading.modifiers.IsEffective a) ∧
    List.Forall₂ (fun f p => f.type = some p.type ∧ p.heading.description = f.heading.description) kept
      init.parameters ∧
    init.body = kept.map assignment

lemma isMemberwise_build (t : TypeDraft) : IsMemberwise t.build t.memberwiseInit where
  name := t.memberwiseInit_name
  modifiers := t.mem_memberwiseInit_modifiers
  members := by
    obtain ⟨hparameters, hbody⟩ := t.memberwiseInit_members
    refine ⟨t.fields.filter t.takes, List.filter_sublist, fun f => ?_,
      hparameters.imp fun _ _ h => ⟨h.type, h.description⟩, hbody⟩
    rw [List.mem_filter, takes_iff]
    rfl

theorem build_methods (raw : String) (kind : Kind) (edits : List Edit) :
    let t := ((named raw kind).editAll edits).build
    let given := firstOfEach Method.name (edits.flatMap Edit.methodsOf)
    (AddsInit kind edits ∧ ∃ init, t.methods = given ++ [init] ∧ IsMemberwise t init) ∨
      ¬AddsInit kind edits ∧ t.methods = given := by
  intro t given
  have hmethods : t.methods = given ++ ((named raw kind).editAll edits).closingInit := build_methods_eq
  by_cases hadds : AddsInit kind edits
  · refine .inl ⟨hadds, _, ?_, isMemberwise_build _⟩
    rw [hmethods, closingInit_of_addsInit hadds]
  · refine .inr ⟨hadds, ?_⟩
    rw [hmethods, closingInit, if_neg (mt synthesizesInit_iff.mp hadds), List.append_nil]

section ParameterNames

def parameterName (name : String) : String := String.ofList (Naming.respelled name.toList)

lemma IsSetTo.name_eq {f : Field} {p : Parameter} (h : IsSetTo f p) (hf : ∃ r, f.name = Naming.memberName r) :
    p.name = parameterName f.name := by
  obtain ⟨r, hr⟩ := hf
  rw [h.name, hr, Naming.memberName_memberName, parameterName]

lemma map_name_of_isSetTo {kept : List Field} {parameters : List Parameter}
    (hparameters : List.Forall₂ IsSetTo kept parameters) (hnamed : ∀ f ∈ kept, ∃ r, f.name = Naming.memberName r) :
    parameters.map Parameter.name = (kept.map Field.name).map parameterName := by
  induction hparameters with
  | nil => rfl
  | @cons f p fields parameters hp _ ih =>
    obtain ⟨hf, hfields⟩ := List.forall_mem_cons.mp hnamed
    rw [List.map_cons, List.map_cons, List.map_cons, hp.name_eq hf, ih hfields]

lemma parameterName_eq_self {name : String} : parameterName name = name ↔ name.toList.head? ≠ some 'ß' := by
  rw [← Naming.respelled_eq_self, parameterName, ← String.toList_inj, String.toList_ofList]

lemma mem_map_parameterName {names : List String} {name : String} (h : name ∈ names) :
    name ∈ names.map parameterName ↔ name.toList.head? ≠ some 'ß' := by
  refine ⟨fun hmem => ?_, fun hsharp => List.mem_map.mpr ⟨name, h, parameterName_eq_self.mpr hsharp⟩⟩
  -- what a name becomes never begins with `ß`
  obtain ⟨other, -, rfl⟩ := List.mem_map.mp hmem
  rw [parameterName, String.toList_ofList]
  exact Naming.head?_respelled other.toList

lemma eq_append_of_toList {name : String} (text : String) {rest : List Char} (h : name.toList = text.toList ++ rest) :
    name = text ++ String.ofList rest := by
  rw [← String.toList_inj, h, String.toList_append, String.toList_ofList]

lemma nodup_map_parameterName {names : List String} (h : names.Nodup) :
    (names.map parameterName).Nodup ↔ ∀ rest, "ß" ++ rest ∈ names → "sS" ++ rest ∉ names := by
  rw [List.nodup_map_iff_inj_on h]
  constructor
  · intro hinj rest hsharp hletters
    have heq := hinj _ hsharp _ hletters (by simp [parameterName, Naming.respelled])
    simp [← String.toList_inj] at heq
  · intro hdistinct a ha b hb heq
    rw [parameterName, parameterName, String.ofList_inj] at heq
    rcases Naming.eq_or_of_respelled_eq heq with hsame | ⟨rest, ⟨hsharp, hletters⟩ | ⟨hsharp, hletters⟩⟩
    · exact String.toList_inj.mp hsame
    · rw [eq_append_of_toList "ß" hsharp] at ha
      rw [eq_append_of_toList "sS" hletters] at hb
      exact absurd hb (hdistinct _ ha)
    · rw [eq_append_of_toList "ß" hsharp] at hb
      rw [eq_append_of_toList "sS" hletters] at ha
      exact absurd ha (hdistinct _ hb)

end ParameterNames

/-- A parameter is named like the field that is assigned from it unless that name begins with `ß`, in which case no
parameter is named like the field. Two parameters share a name only where one field has `sS` in front and another one
`ß` in its stead. -/
theorem memberwiseInit_names (raw : String) {kind : Kind} {edits : List Edit} (hadds : AddsInit kind edits)
    (hnamed : ∀ f ∈ edits.flatMap Edit.fieldsOf, ∃ r, f.name = Naming.memberName r) :
    let t := ((named raw kind).editAll edits).build
    ∃ (init : Method) (kept : List Field), t.methods.getLast? = some init ∧ kept.Sublist t.fields ∧
      init.body = kept.map assignment ∧
      init.parameters.map Parameter.name = (kept.map Field.name).map parameterName ∧
      (∀ name ∈ kept.map Field.name,
        name ∈ init.parameters.map Parameter.name ↔ name.toList.head? ≠ some 'ß') ∧
      ((init.parameters.map Parameter.name).Nodup ↔
        ∀ rest, "ß" ++ rest ∈ kept.map Field.name → "sS" ++ rest ∉ kept.map Field.name) ∧
      ((∀ name ∈ kept.map Field.name, name.toList.head? ≠ some 'ß') →
        init.parameters.map Parameter.name = kept.map Field.name ∧ (init.parameters.map Parameter.name).Nodup) := by
  set draft := (named raw kind).editAll edits with hdraft
  set kept := draft.fields.filter draft.takes
  have hfields : draft.fields = firstOfEach Field.name (edits.flatMap Edit.fieldsOf) := by rw [hdraft, editAll_named]
  have hsublist : kept.Sublist draft.fields := List.filter_sublist
  have hgiven : kept.Sublist (edits.flatMap Edit.fieldsOf) :=
    hsublist.trans (hfields ▸ firstOfEach_sublist Field.name _)
  have hdistinct : (draft.fields.map Field.name).Nodup := hfields ▸ nodup_firstOfEach Field.name _
  have hnodup : (kept.map Field.name).Nodup := hdistinct.sublist (hsublist.map Field.name)
  obtain ⟨hparameters, hbody⟩ := draft.memberwiseInit_members
  have hnames := map_name_of_isSetTo hparameters fun f hf => hnamed f (hgiven.subset hf)
  refine ⟨draft.memberwiseInit, kept, getLast?_build_methods raw hadds, hsublist, hbody, hnames, ?_⟩
  rw [hnames]
  refine ⟨fun name => mem_map_parameterName, nodup_map_parameterName hnodup, fun hplain => ?_⟩
  have hsame : (kept.map Field.name).map parameterName = kept.map Field.name :=
    List.map_congr_left (fun name hname => parameterName_eq_self.mpr (hplain name hname)) |>.trans (List.map_id' _)
  exact ⟨hsame, hsame.symm ▸ hnodup⟩

def integers (raws : List String) : List Edit := [.fields (raws.map fun raw => (Field.named raw).typed .integer)]

lemma addsInit_integers (raws : List String) : AddsInit .structType (integers raws) :=
  ⟨rfl, by simp [integers], by simp [integers, Edit.methodsOf]⟩

lemma exists_name_eq_of_integers {raws : List String} {f : Field} (h : f ∈ (integers raws).flatMap Edit.fieldsOf) :
    ∃ r, f.name = Naming.memberName r := by
  obtain ⟨r, -, rfl⟩ : ∃ r ∈ raws, (Field.named r).typed .integer = f := by
    simpa [integers, Edit.fieldsOf] using h
  exact ⟨r, name_named_field r⟩

theorem memberwiseInit_names_reserved :
    let t := ((named "point" .structType).editAll (integers ["class", "ǆ", "SStraße"])).build
    t.fields.map Field.name = ["\x60class\x60", "ǆ", "sStraße"] ∧
      ∃ (init : Method) (kept : List Field), t.methods.getLast? = some init ∧ kept.Sublist t.fields ∧
        init.body = kept.map assignment ∧ init.parameters.map Parameter.name = kept.map Field.name ∧
        (init.parameters.map Parameter.name).Nodup := by
  intro t
  have hfields : t.fields.map Field.name = ["\x60class\x60", "ǆ", "sStraße"] := by decide +kernel
  have hplain : ∀ name ∈ t.fields.map Field.name, name.toList.head? ≠ some 'ß' := by
    rw [hfields]
    decide
  obtain ⟨init, kept, hlast, hsublist, hbody, -, -, -, hnames⟩ :=
    memberwiseInit_names "point" (addsInit_integers _) fun f hf => exists_name_eq_of_integers hf
  have hkept := hnames fun name hname => hplain name ((hsublist.map Field.name).subset hname)
  exact ⟨hfields, init, kept, hlast, hsublist, hbody, hkept.1, hkept.2⟩

theorem memberwiseInit_strays :
    let t := ((named "point" .structType).editAll (integers ["ẞ", "ß"])).build
    t.fields.map Field.name = ["ß", "sS"] ∧
      ∃ init : Method, t.methods.getLast? = some init ∧ Fragment.render init.body = "\nself.ß = ß\nself.sS = sS" ∧
        init.parameters.map Parameter.name = ["sS", "sS"] := by
  have hlast := getLast?_build_methods "point" (addsInit_integers ["ẞ", "ß"])
  exact ⟨by decide +kernel, _, hlast, by decide +kernel, by decide +kernel⟩

end SwiftSource.TypeDraft
