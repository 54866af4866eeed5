import SwiftSource.Declaration.Draft
import SwiftSource.Proofs.FirstOfEach
import SwiftSource.Proofs.Notes

/-! What a draft becomes under any edits, and the type that is built in the end. Main statement: every part of the
type is told by the edits alone. -/

namespace SwiftSource

namespace TypeDraft

namespace Edit

def notesOf : Edit → List Heading.Note
  | .note n => [n]
  | _ => []

def fieldsOf : Edit → List Field
  | .field f => [f]
  | .fields l => l
  | _ => []

def methodsOf : Edit → List Method
  | .method m => [m]
  | .methods l => l
  | _ => []

def protocolsOf : Edit → List TypeName
  | .protocol p => [p]
  | .protocols l => l
  | _ => []

def superType? : Edit → Option TypeName
  | .superType t => some t
  | _ => none

def keepsInit : Edit → Bool
  | .withoutDefaultInit => false
  | _ => true

end Edit

section Members

variable (t : TypeDraft)

lemma foldl_addField (l : List Field) :
    l.foldl addField t = { t with fields := l.foldl (addNew Field.name) t.fields } := by
  refine List.foldl_hom (fun fields => { t with fields }) fun fields f => ?_
  rw [addField, addNew]
  split <;> rfl

lemma foldl_addMethod (l : List Method) :
    l.foldl addMethod t = { t with methods := l.foldl (addNew Method.name) t.methods } := by
  refine List.foldl_hom (fun methods => { t with methods }) fun methods m => ?_
  rw [addMethod, addNew]
  split <;> rfl

lemma foldl_adopt (l : List TypeName) :
    l.foldl adopt t = { t with protocols := l.foldl (addNew id) t.protocols } := by
  refine List.foldl_hom (fun protocols => { t with protocols }) fun protocols p => ?_
  have hany : (protocols.any fun q => id q = id p) = true ↔ p ∈ protocols := by simp
  rw [adopt, addNew]
  simp only [hany]
  split <;> rfl

end Members

lemma edit_eq (t : TypeDraft) (e : Edit) :
    t.edit e =
      { heading := e.notesOf.foldl Heading.note t.heading
        methods := e.methodsOf.foldl (addNew Method.name) t.methods
        fields := e.fieldsOf.foldl (addNew Field.name) t.fields
        superType := e.superType?.or t.superType
        protocols := e.protocolsOf.foldl (addNew id) t.protocols
        wantsInit := e.keepsInit && t.wantsInit } := by
  cases e with
  | note n => rfl
  | superType s => rfl
  | protocol p => exact t.foldl_adopt [p]
  | protocols l => exact t.foldl_adopt l
  | field f => exact t.foldl_addField [f]
  | fields l => exact t.foldl_addField l
  | method m => exact t.foldl_addMethod [m]
  | methods l => exact t.foldl_addMethod l
  | withoutDefaultInit => rfl

theorem editAll_eq (t : TypeDraft) (edits : List Edit) :
    t.editAll edits =
      { heading := (edits.flatMap Edit.notesOf).foldl Heading.note t.heading
        methods := (edits.flatMap Edit.methodsOf).foldl (addNew Method.name) t.methods
        fields := (edits.flatMap Edit.fieldsOf).foldl (addNew Field.name) t.fields
        superType := (edits.filterMap Edit.superType?).getLast?.or t.superType
        protocols := (edits.flatMap Edit.protocolsOf).foldl (addNew id) t.protocols
        wantsInit := edits.all Edit.keepsInit && t.wantsInit } := by
  induction edits generalizing t with
  | nil => rfl
  | cons e rest ih =>
    have hrest := ih (t.edit e)
    rw [editAll] at hrest ⊢
    rw [List.foldl_cons, hrest, edit_eq]
    simp only [List.flatMap_cons, List.foldl_append, getLast?_filterMap_cons, Option.or_assoc, List.all_cons,
      Bool.and_left_comm, Bool.and_assoc]

lemma editAll_named (raw : String) (kind : Kind) (edits : List Edit) :
    (named raw kind).editAll edits =
      { heading := (edits.flatMap Edit.notesOf).foldl Heading.note (.named (Naming.clean raw .type) kind)
        methods := firstOfEach Method.name (edits.flatMap Edit.methodsOf)
        fields := firstOfEach Field.name (edits.flatMap Edit.fieldsOf)
        superType := (edits.filterMap Edit.superType?).getLast?
        protocols := firstOfEach id (edits.flatMap Edit.protocolsOf)
        wantsInit := edits.all Edit.keepsInit && kind = .structType } := by
  rw [editAll_eq, named, foldl_addNew, foldl_addNew, foldl_addNew, Option.or_none]

section Initializer

variable (t : TypeDraft)

lemma addAssignment_heading (m : Method) (f : Field) : (t.addAssignment m f).heading = m.heading := by
  rw [addAssignment]
  split
  · rfl
  · split <;> rfl

lemma foldl_addAssignment_heading (l : List Field) (m : Method) :
    (l.foldl t.addAssignment m).heading = m.heading := by
  induction l generalizing m with
  | nil => rfl
  | cons f rest ih => rw [List.foldl_cons, ih, addAssignment_heading]

lemma memberwiseInit_name : t.memberwiseInit.name = "init" := by
  rw [memberwiseInit, Method.name, foldl_addAssignment_heading]
  cases ModifierSet.accessLevel t.heading.modifiers with
  | none => decide
  | some access =>
    change ((Method.named "init").heading.note (.modifier access)).name = "init"
    rw [Heading.note_name]
    decide

def closingInit : List Method := if t.synthesizesInit then [t.memberwiseInit] else []

lemma closingInit_eq :
    t.closingInit = [] ∨ t.closingInit = [t.memberwiseInit] ∧ ∀ m ∈ t.methods, m.name ≠ "init" := by
  rw [closingInit]
  split
  next h =>
    have hnone := (Bool.and_eq_true_iff.mp h).2
    exact .inr ⟨rfl, fun m hm => of_decide_eq_true (List.all_eq_true.mp hnone m hm)⟩
  next => exact .inl rfl

lemma nodup_build_methods (h : (t.methods.map Method.name).Nodup) : (t.build.methods.map Method.name).Nodup := by
  change ((t.methods ++ t.closingInit).map Method.name).Nodup
  rcases t.closingInit_eq with hnone | ⟨hinit, hnew⟩
  · rwa [hnone, List.append_nil]
  · rw [hinit, List.map_append, List.map_singleton, memberwiseInit_name]
    refine List.nodup_append.mpr ⟨h, List.pairwise_singleton _ _, ?_⟩
    rintro a ha b hb rfl
    obtain ⟨m, hm, rfl⟩ := List.mem_map.mp ha
    exact hnew m hm (List.mem_singleton.mp hb)

end Initializer

/-- The built type, part by part, in terms of the edits that led to it. -/
structure Outcome (raw : String) (kind : Kind) (edits : List Edit) (t : TypeDeclaration) : Prop where
  headingName : t.heading.name = Naming.clean raw .type
  headingKind : t.heading.kind = kind
  modifiers : ∀ m, m ∈ t.heading.modifiers ↔
    m ∈ (edits.flatMap Edit.notesOf).flatMap Heading.Note.modifiersOf ∧ kind.accepts m = true
  imports : ∀ x, x ∈ t.heading.imports ↔ x ∈ (edits.flatMap Edit.notesOf).flatMap Heading.Note.importsOf
  description : t.heading.description =
    ((edits.flatMap Edit.notesOf).filterMap Heading.Note.description?).getLast?
  framework : t.heading.framework =
    ((edits.flatMap Edit.notesOf).filterMap Heading.Note.framework?).getLast?.map (Naming.clean · .type)
  superType : t.superType = (edits.filterMap Edit.superType?).getLast?
  protocols : t.protocols = firstOfEach id (edits.flatMap Edit.protocolsOf)
  fields : t.fields = firstOfEach Field.name (edits.flatMap Edit.fieldsOf)
  fieldNames : (t.fields.map Field.name).Nodup
  field? : ∀ n, t.field? n = (edits.flatMap Edit.fieldsOf).find? fun f => f.name = n
  methods : ∃ inits : List Method,
    (inits = [] ∨ ∃ init : Method, inits = [init] ∧ init = ((named raw kind).editAll edits).memberwiseInit ∧
      init.name = "init") ∧
    t.methods = firstOfEach Method.name (edits.flatMap Edit.methodsOf) ++ inits ∧
    ∀ n, t.method? n = ((edits.flatMap Edit.methodsOf).find? fun m => m.name = n).or (inits.find? fun m => m.name = n)
  methodNames : (t.methods.map Method.name).Nodup

theorem build_outcome (raw : String) (kind : Kind) (edits : List Edit) :
    Outcome raw kind edits ((named raw kind).editAll edits).build := by
  rw [editAll_named]
  exact {
    headingName := Heading.foldl_note_name
    headingKind := Heading.foldl_note_kind
    modifiers := fun m => Heading.mem_foldl_note_modifiers
    imports := fun x => Heading.mem_foldl_note_imports
    description := Heading.foldl_note_description
    framework := Heading.foldl_note_framework
    superType := rfl
    protocols := rfl
    fields := rfl
    fieldNames := nodup_firstOfEach Field.name _
    field? := find?_firstOfEach Field.name _
    methods := by
      refine ⟨closingInit _, ?_, rfl, fun n => ?_⟩
      · rw [editAll_named]
        exact (closingInit_eq _).imp_right fun h => ⟨_, h.1, rfl, memberwiseInit_name _⟩
      · rw [← find?_firstOfEach Method.name]
        exact List.find?_append
    methodNames := nodup_build_methods _ (nodup_firstOfEach Method.name _) }

example :
    let t := ((named "user" .structType).editAll [.field (.named "a_b"), .fields [.named "c", .named "aB"]]).build
    t.fields.map Field.name = ["aB", "c"] := by decide

end TypeDraft

end SwiftSource
