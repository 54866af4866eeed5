import SwiftSource.Proofs.ByteOrder
import SwiftSource.Proofs.FileText
import SwiftSource.Proofs.Notes
import SwiftSource.Proofs.TypeTerms
import SwiftSource.Declaration.Draft
import Mathlib.Logic.Relation

/-! The modules that a file imports are those that its declarations name, and those that the type names in them carry,
wherever in the tree they stand. -/

namespace SwiftSource

lemma TypeName.mem_importsOf {t : Option TypeName} {x : String} : x ∈ importsOf t ↔ ∃ u ∈ t.toList, x ∈ u.imports := by
  cases t <;> simp [importsOf]

namespace Declaration

def members : Declaration → List Declaration
  | .type t => t.methods.map .method ++ t.fields.map .field
  | .method m => m.parameters.map .parameter
  | .field _ | .parameter _ => []

def typeNames : Declaration → List TypeName
  | .type t => t.protocols ++ t.superType.toList
  | .field f => f.type.toList
  | .method m => m.returnType.toList
  | .parameter p => [p.type]

def Names (d : Declaration) (x : String) : Prop := x ∈ d.heading.imports ∨ ∃ t ∈ d.typeNames, x ∈ t.imports

/-- One declaration is the other or stands somewhere below it. -/
def Holds : Declaration → Declaration → Prop := Relation.ReflTransGen fun d e => e ∈ d.members

def Needs (d : Declaration) (x : String) : Prop := ∃ e, d.Holds e ∧ e.Names x

variable {d e : Declaration} {x : String}

lemma needs_iff : d.Needs x ↔ d.Names x ∨ ∃ e ∈ d.members, e.Needs x := by
  constructor
  · rintro ⟨e, hde, hx⟩
    rcases Relation.ReflTransGen.cases_head hde with rfl | ⟨m, hm, hme⟩
    · exact .inl hx
    · exact .inr ⟨m, hm, e, hme, hx⟩
  · rintro (hx | ⟨m, hm, e, hme, hx⟩)
    · exact ⟨d, .refl, hx⟩
    · exact ⟨e, .head hm hme, hx⟩

lemma mem_requiredImports_iff : x ∈ d.requiredImports ↔ d.Names x ∨ ∃ e ∈ d.members, x ∈ e.requiredImports := by
  cases d with
  | type t =>
    simp [requiredImports, TypeDeclaration.requiredImports, Names, heading, typeNames, members,
      TypeName.mem_importsOf, or_and_right, exists_or, or_assoc, or_left_comm, or_comm]
  | field f => simp [requiredImports, Field.requiredImports, Names, heading, typeNames, members, TypeName.mem_importsOf]
  | method m =>
    simp [requiredImports, Method.requiredImports, Names, heading, typeNames, members, TypeName.mem_importsOf,
      or_right_comm]
  | parameter p => simp [requiredImports, Parameter.requiredImports, Names, heading, typeNames, members]

def height : Declaration → Nat
  | .type _ => 2
  | .method _ => 1
  | .field _ | .parameter _ => 0

lemma height_lt (h : e ∈ d.members) : e.height < d.height := by
  cases d with
  | type t =>
    rcases List.mem_append.mp h with h | h
    · obtain ⟨m, -, rfl⟩ := List.mem_map.mp h
      exact Nat.one_lt_two
    · obtain ⟨f, -, rfl⟩ := List.mem_map.mp h
      exact Nat.zero_lt_two
  | method m =>
    obtain ⟨p, -, rfl⟩ := List.mem_map.mp h
    exact Nat.zero_lt_one
  | field f => exact absurd h List.not_mem_nil
  | parameter p => exact absurd h List.not_mem_nil

theorem mem_requiredImports (d : Declaration) : x ∈ d.requiredImports ↔ d.Needs x := by
  rw [mem_requiredImports_iff, needs_iff]
  refine or_congr_right (exists_congr fun e => and_congr_right fun he => ?_)
  have hlower := height_lt he
  exact mem_requiredImports e
termination_by d.height

end Declaration

lemma Method.mem_requiredImports_withParameter {m : Method} {p : Parameter} {x : String} :
    x ∈ (m.withParameter p).requiredImports ↔ x ∈ m.requiredImports ∨ x ∈ p.requiredImports := by
  simp [Method.requiredImports, Method.withParameter, Method.withParameters, or_and_right, exists_or, or_comm,
    or_left_comm]

namespace TypeDraft

def given (t : TypeDraft) : TypeDeclaration :=
  { heading := t.heading, methods := t.methods, fields := t.fields, superType := t.superType, protocols := t.protocols }

variable {t : TypeDraft} {x : String}

lemma requiredImports_initParameter (f : Field) (type : TypeName) :
    (initParameter f type).requiredImports = type.imports := by
  apply SortedSet.ext
  intro x
  rw [initParameter]
  cases f.heading.description with
  | none => simp [Parameter.requiredImports, Parameter.named, Heading.named]
  | some description => simp [Parameter.requiredImports, Parameter.named, Heading.named, Parameter.note, Heading.note]

/-- The parameter for a field has the type of the field, so it brings nothing that the field has not brought. -/
lemma mem_imports_addAssignment {m : Method} {f : Field} (h : x ∈ (t.addAssignment m f).requiredImports) :
    x ∈ m.requiredImports ∨ x ∈ f.requiredImports := by
  rw [addAssignment] at h
  split at h
  · exact .inl h
  next type htype =>
    split at h
    · have hp : x ∈ m.requiredImports ∨ x ∈ (initParameter f type).requiredImports :=
        Method.mem_requiredImports_withParameter.mp h
      rw [requiredImports_initParameter] at hp
      refine hp.imp_right fun hx => SortedSet.mem_union.mpr (.inr ?_)
      rwa [htype]
    · exact .inl h

lemma mem_imports_foldl_addAssignment {l : List Field} {m : Method}
    (h : x ∈ (l.foldl t.addAssignment m).requiredImports) : x ∈ m.requiredImports ∨ ∃ f ∈ l, x ∈ f.requiredImports := by
  induction l generalizing m with
  | nil => exact .inl h
  | cons f rest ih =>
    rcases ih h with hm | ⟨g, hg, hx⟩
    · rcases mem_imports_addAssignment hm with hm | hf
      · exact .inl hm
      · exact .inr ⟨f, List.mem_cons_self, hf⟩
    · exact .inr ⟨g, List.mem_cons_of_mem f hg, hx⟩

lemma mem_imports_memberwiseInit (h : x ∈ t.memberwiseInit.requiredImports) :
    ∃ f ∈ t.fields, x ∈ f.requiredImports := by
  rw [memberwiseInit] at h
  refine (mem_imports_foldl_addAssignment h).resolve_left ?_
  cases ModifierSet.accessLevel t.heading.modifiers with
  | none => simp [Method.requiredImports, Method.named, Heading.named, TypeName.mem_importsOf]
  | some access =>
    simp [Method.requiredImports, Method.named, Method.note, Heading.note_eq, Heading.named, Heading.Note.importsOf,
      TypeName.mem_importsOf]

lemma mem_members_build {e : Declaration} :
    e ∈ Declaration.members (.type t.build) ↔
      e ∈ Declaration.members (.type t.given) ∨ t.synthesizesInit = true ∧ e = .method t.memberwiseInit := by
  by_cases h : t.synthesizesInit = true
  · simp [Declaration.members, build, given, h, or_comm, or_assoc]
  · simp [Declaration.members, build, given, h]

lemma requiredImports_build (t : TypeDraft) : t.build.requiredImports = t.given.requiredImports := by
  apply SortedSet.ext
  intro x
  change x ∈ Declaration.requiredImports (.type t.build) ↔ x ∈ Declaration.requiredImports (.type t.given)
  rw [Declaration.mem_requiredImports_iff, Declaration.mem_requiredImports_iff]
  refine or_congr_right ⟨?_, ?_⟩
  · rintro ⟨e, he, hx⟩
    rcases mem_members_build.mp he with he | ⟨-, rfl⟩
    · exact ⟨e, he, hx⟩
    · obtain ⟨f, hf, hfx⟩ := mem_imports_memberwiseInit hx
      exact ⟨.field f, List.mem_append_right _ (List.mem_map_of_mem hf), hfx⟩
  · rintro ⟨e, he, hx⟩
    exact ⟨e, mem_members_build.mpr (.inl he), hx⟩

end TypeDraft

namespace SourceFile

def Needs (f : SourceFile) (x : String) : Prop := ∃ d ∈ f.declarations, d.Needs x

lemma mem_requiredImports {f : SourceFile} {x : String} : x ∈ f.requiredImports ↔ f.Needs x := by
  simp [requiredImports, Declaration.mem_requiredImports, Needs]

theorem import_manifest (f : SourceFile) :
    (∀ x, x ∈ f.requiredImports ↔ f.Needs x) ∧
    (∃ names : List String, names.Pairwise (fun a b => Text.bytes a < Text.bytes b) ∧ (∀ x, x ∈ names ↔ f.Needs x) ∧
      f.render = f.header ++ importSection names ++ f.contents) ∧
    (∀ (h : Heading) (notes : List Heading.Note) (x : String),
      x ∈ (notes.foldl Heading.note h).imports ↔ x ∈ notes.flatMap Heading.Note.importsOf ∨ x ∈ h.imports) ∧
    (∀ (t : TypeTerm) (x : String), x ∈ t.toTypeName.imports ↔ x ∈ t.attached) ∧
    ∀ t : TypeDraft, t.build.requiredImports = t.given.requiredImports := by
  refine ⟨fun x => mem_requiredImports, ?_, ?_, fun t x => TypeTerm.mem_imports_toTypeName,
    TypeDraft.requiredImports_build⟩
  · exact ⟨f.requiredImports.toList, f.requiredImports.ascending.imp Text.bytes_lt, fun x => mem_requiredImports,
      f.render_eq⟩
  · intro h notes x
    rw [Heading.foldl_note]
    exact SortedSet.mem_insertAll

end SourceFile

end SwiftSource
