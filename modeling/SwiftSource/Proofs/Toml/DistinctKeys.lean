import SwiftSource.Proofs.Except
import SwiftSource.Toml.Document
import Mathlib.Data.List.Nodup
import Mathlib.Tactic.Lemma

/-! A table has each of its keys once. A key is added only where it is new, and all other changes are to the value of a
key, so whatever the lines of a document are, its table is one with distinct keys. -/

namespace SwiftSource.Toml

namespace Table

def DistinctKeys (t : Table) : Prop := (t.entries.map Entry.key).Nodup

/-- The change gives distinct keys to what has distinct keys, if it is possible at all. -/
def KeepsDistinct (change : Table → Checked Table) : Prop :=
  ∀ t u, t.DistinctKeys → change t = .ok u → u.DistinctKeys

lemma distinctKeys_empty (origin : Origin) : (empty origin).DistinctKeys := List.nodup_nil

lemma keepsDistinct_add (key : Key) (span : Span) (value : Value) : KeepsDistinct fun t => t.add key span value := by
  intro t u ht h
  dsimp only [add] at h
  split at h
  · cases h
  next hnew =>
    cases h
    have hfresh : ∀ e ∈ t.entries, e.key ≠ key.name := by
      simpa [find?] using hnew
    simpa [DistinctKeys, List.nodup_append] using ⟨ht, hfresh⟩

lemma distinctKeys_replace {t : Table} (ht : t.DistinctKeys) (name : String) (value : Value) :
    (t.replace name value).DistinctKeys := by
  have hkeys : (t.replace name value).entries.map Entry.key = t.entries.map Entry.key := by
    rw [replace, List.map_map]
    refine List.map_congr_left fun e _ => ?_
    dsimp only [Function.comp]
    split <;> rfl
  rwa [DistinctKeys, hkeys]

lemma distinctKeys_erase {t : Table} (ht : t.DistinctKeys) (name : String) : (t.erase name).DistinctKeys :=
  ht.sublist (List.filter_sublist.map Entry.key)

lemma keepsDistinct_modifyAt {change : Table → Checked Table} (hc : KeepsDistinct change) (isDotted : Bool)
    (path : List Key) : KeepsDistinct (modifyAt isDotted change path) := by
  intro t u ht h
  cases path with
  | nil => exact hc t u ht h
  | cons key rest =>
    rw [modifyAt] at h
    split at h
    · obtain ⟨inner, -, hadd⟩ := bind_eq_ok.mp h
      exact keepsDistinct_add key key.span inner.toValue t u ht hadd
    next e _ =>
      split at h
      · split at h
        · cases h
        · obtain ⟨inner, -, hreplace⟩ := bind_eq_ok.mp h
          cases hreplace
          exact distinctKeys_replace ht _ _
      · obtain ⟨last, -, hlast⟩ := bind_eq_ok.mp h
        obtain ⟨inner, -, hreplace⟩ := bind_eq_ok.mp hlast
        cases hreplace
        exact distinctKeys_replace ht _ _
      · cases h

lemma keepsDistinct_assign (path : List Key) (key : Key) (span : Span) (value : Value) :
    KeepsDistinct fun t => t.assign path key span value := by
  refine keepsDistinct_modifyAt ?_ true path
  intro t u ht h
  dsimp only at h
  split at h
  · cases h
  · exact keepsDistinct_add key span value t u ht h

lemma keepsDistinct_define (fill : Table → Checked Table) (key : Key) (span : Span) :
    KeepsDistinct (define fill key span) := by
  intro t u ht h
  rw [define] at h
  split at h
  · obtain ⟨inner, -, hadd⟩ := bind_eq_ok.mp h
    exact keepsDistinct_add key span _ t u ht hadd
  · split at h
    · obtain ⟨inner, -, hadd⟩ := bind_eq_ok.mp h
      exact keepsDistinct_add key span _ _ u (distinctKeys_erase ht key.name) hadd
    · cases h

lemma keepsDistinct_append (inner : Table) (key : Key) (span : Span) : KeepsDistinct (append inner key span) := by
  intro t u ht h
  rw [append] at h
  split at h
  · exact keepsDistinct_add key span _ t u ht h
  · split at h
    · cases h
      exact distinctKeys_replace ht _ _
    · cases h

end Table

open Table

lemma keepsDistinct_fill (lines : List Line) : KeepsDistinct (fill · lines) := by
  induction lines with
  | nil =>
    intro t u ht h
    cases h
    exact ht
  | cons l rest ih =>
    intro t u ht h
    cases l with
    | blank => exact ih t u ht h
    | header _ =>
      cases h
      exact ht
    | assignment keys span value =>
      obtain ⟨⟨path, key⟩, -, h⟩ := bind_eq_ok.mp h
      obtain ⟨v, -, h⟩ := bind_eq_ok.mp h
      obtain ⟨s, hs, h⟩ := bind_eq_ok.mp h
      exact ih s u (keepsDistinct_assign path key span v t s ht hs) h

lemma keepsDistinct_addSection (h : Header) (rest : List Line) : KeepsDistinct (addSection · h rest) := by
  intro t u ht hu
  obtain ⟨⟨path, key⟩, -, hu⟩ := bind_eq_ok.mp hu
  dsimp only at hu
  split at hu
  · obtain ⟨inner, -, hu⟩ := bind_eq_ok.mp hu
    exact keepsDistinct_modifyAt (keepsDistinct_append inner key h.span) false path t u ht hu
  · exact keepsDistinct_modifyAt (keepsDistinct_define _ key h.span) false path t u ht hu

lemma keepsDistinct_addSections (lines : List Line) : KeepsDistinct (addSections · lines) := by
  induction lines with
  | nil =>
    intro t u ht h
    cases h
    exact ht
  | cons l rest ih =>
    intro t u ht hu
    cases l with
    | header h =>
      obtain ⟨s, hs, hu⟩ := bind_eq_ok.mp hu
      exact ih s u (keepsDistinct_addSection h rest t s ht hs) hu
    | blank => exact ih t u ht hu
    | assignment _ _ _ => exact ih t u ht hu

def ReadsDistinctKeys (read : String → Checked Table) : Prop := ∀ text t, read text = .ok t → t.DistinctKeys

theorem readsDistinctKeys_ofText : ReadsDistinctKeys Table.ofText := by
  intro text t h
  obtain ⟨lines, -, h⟩ := bind_eq_ok.mp h
  obtain ⟨u, hu, h⟩ := bind_eq_ok.mp h
  obtain ⟨root, hroot, hu⟩ := bind_eq_ok.mp hu
  split at h
  · cases h
    exact keepsDistinct_addSections lines root _
      (keepsDistinct_fill lines _ root (distinctKeys_empty .header) hroot) hu
  · cases h

end SwiftSource.Toml
