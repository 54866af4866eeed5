import SwiftSource.Heading
import Mathlib.Tactic.Lemma

/-! Headings after any notes. Modifiers and imports only gather, of descriptions and frameworks the last one
counts. -/

namespace SwiftSource

lemma SortedSet.insertAll_append {α : Type} [LT α] [DecidableEq α] [DecidableLT α] [StrictlyOrdered α]
    (s : SortedSet α) (l m : List α) : s.insertAll (l ++ m) = (s.insertAll l).insertAll m := List.foldl_append

lemma getLast?_filterMap_cons {α β : Type} (f : α → Option β) (a : α) (l : List α) :
    ((a :: l).filterMap f).getLast? = (l.filterMap f).getLast?.or (f a) := by
  cases h : f a with
  | none => rw [List.filterMap_cons_none h, Option.or_none]
  | some b =>
    rw [List.filterMap_cons_some h, List.getLast?_cons]
    cases (l.filterMap f).getLast? <;> rfl

namespace Heading

namespace Note

def modifiersOf : Note → List Modifier
  | .modifier m => [m]
  | .modifiers l => l
  | _ => []

def importsOf : Note → List String
  | .requires name => [name]
  | .requiresAll names => names
  | _ => []

def description? : Note → Option String
  | .description text => some text
  | _ => none

def framework? : Note → Option String
  | .framework name => some name
  | _ => none

end Note

lemma foldl_addModifier (l : List Modifier) (h : Heading) :
    l.foldl addModifier h = { h with modifiers := h.modifiers.insertAll (l.filter h.kind.accepts) } := by
  induction l generalizing h with
  | nil => rfl
  | cons m rest ih =>
    rw [List.foldl_cons, ih, addModifier, List.filter_cons]
    split
    · rfl
    · rfl

lemma foldl_addImport (l : List String) (h : Heading) :
    l.foldl addImport h = { h with imports := h.imports.insertAll l } :=
  List.foldl_hom (fun imports => { h with imports }) fun _ _ => rfl

lemma note_eq (h : Heading) (n : Note) :
    h.note n = { h with
      modifiers := h.modifiers.insertAll (n.modifiersOf.filter h.kind.accepts)
      description := n.description?.or h.description
      framework := (n.framework?.map (Naming.clean · .type)).or h.framework
      imports := h.imports.insertAll n.importsOf } := by
  cases n with
  | modifier m => exact foldl_addModifier [m] h
  | modifiers l => exact foldl_addModifier l h
  | description text => rfl
  | framework name => rfl
  | requires name => rfl
  | requiresAll names => exact foldl_addImport names h

lemma note_name (h : Heading) (n : Note) : (h.note n).name = h.name := by rw [note_eq]

theorem foldl_note (notes : List Note) (h : Heading) :
    notes.foldl note h = { h with
      modifiers := h.modifiers.insertAll ((notes.flatMap Note.modifiersOf).filter h.kind.accepts)
      description := (notes.filterMap Note.description?).getLast?.or h.description
      framework := ((notes.filterMap Note.framework?).getLast?.map (Naming.clean · .type)).or h.framework
      imports := h.imports.insertAll (notes.flatMap Note.importsOf) } := by
  induction notes generalizing h with
  | nil => rfl
  | cons n rest ih =>
    rw [List.foldl_cons, ih, note_eq]
    simp only [List.flatMap_cons, List.filter_append, SortedSet.insertAll_append, getLast?_filterMap_cons,
      Option.map_or, Option.or_assoc]

section Gathered

variable {name : String} {kind : Kind} {notes : List Note}

lemma foldl_note_name : (notes.foldl note (named name kind)).name = name := by rw [foldl_note, named]

lemma foldl_note_kind : (notes.foldl note (named name kind)).kind = kind := by rw [foldl_note, named]

lemma mem_foldl_note_modifiers {m : Modifier} :
    m ∈ (notes.foldl note (named name kind)).modifiers ↔
      m ∈ notes.flatMap Note.modifiersOf ∧ kind.accepts m = true := by
  rw [foldl_note, named]
  simp only [SortedSet.mem_insertAll, SortedSet.not_mem_empty, or_false, List.mem_filter]

lemma mem_foldl_note_imports {x : String} :
    x ∈ (notes.foldl note (named name kind)).imports ↔ x ∈ notes.flatMap Note.importsOf := by
  rw [foldl_note, named]
  simp only [SortedSet.mem_insertAll, SortedSet.not_mem_empty, or_false]

lemma foldl_note_description :
    (notes.foldl note (named name kind)).description = (notes.filterMap Note.description?).getLast? := by
  rw [foldl_note, named, Option.or_none]

lemma foldl_note_framework :
    (notes.foldl note (named name kind)).framework =
      (notes.filterMap Note.framework?).getLast?.map (Naming.clean · .type) := by
  rw [foldl_note]
  exact Option.or_none

end Gathered

end Heading

end SwiftSource
