import Mathlib.Data.List.Induction
import Mathlib.Tactic.Lemma

/-! The first of each in a list, as members are kept in a declaration: of those with one key all but the first are
left out. Members that are added one by one, and only where their key is new, come to the same. -/

namespace SwiftSource

variable {α β : Type} [DecidableEq β] (key : α → β)

def firstOfEach : List α → List α
  | [] => []
  | a :: rest => a :: (firstOfEach rest).filter fun b => key b ≠ key a

def addNew (l : List α) (a : α) : List α := if l.any fun b => key b = key a then l else l ++ [a]

section

variable {key}

lemma addNew_of_mem {l : List α} {a b : α} (hb : b ∈ l) (hkey : key b = key a) : addNew key l a = l :=
  if_pos (List.any_eq_true.mpr ⟨b, hb, decide_eq_true hkey⟩)

lemma addNew_of_forall {l : List α} {a : α} (h : ∀ b ∈ l, key b ≠ key a) : addNew key l a = l ++ [a] := by
  apply if_neg
  intro hany
  obtain ⟨b, hb, hkey⟩ := List.any_eq_true.mp hany
  exact h b hb (of_decide_eq_true hkey)

lemma filter_addNew {l : List α} {a c : α} (h : key a = key c) :
    (addNew key l a).filter (fun b => key b ≠ key c) = l.filter fun b => key b ≠ key c := by
  rw [addNew]
  split
  · rfl
  · simp [List.filter_append, h]

lemma cons_addNew {l : List α} {a c : α} (h : key c ≠ key a) :
    c :: (addNew key l a).filter (fun b => key b ≠ key c) = addNew key (c :: l.filter fun b => key b ≠ key c) a := by
  by_cases hany : ∃ b ∈ l, key b = key a
  · obtain ⟨b, hb, hkey⟩ := hany
    have hkept : b ∈ l.filter fun b => key b ≠ key c :=
      List.mem_filter.mpr ⟨hb, decide_eq_true (hkey ▸ h.symm)⟩
    rw [addNew_of_mem hb hkey, addNew_of_mem (List.mem_cons_of_mem c hkept) hkey]
  · have hnew : ∀ b ∈ l, key b ≠ key a := fun b hb hkey => hany ⟨b, hb, hkey⟩
    have hnew' : ∀ b ∈ c :: l.filter (fun b => key b ≠ key c), key b ≠ key a :=
      List.forall_mem_cons.mpr ⟨h, fun b hb => hnew b ((List.mem_filter.mp hb).1)⟩
    rw [addNew_of_forall hnew, addNew_of_forall hnew', List.filter_append, List.cons_append]
    congr 2
    simp [Ne.symm h]

end

lemma firstOfEach_append_singleton (l : List α) (a : α) :
    firstOfEach key (l ++ [a]) = addNew key (firstOfEach key l) a := by
  induction l with
  | nil => rfl
  | cons c rest ih =>
    rw [List.cons_append, firstOfEach, firstOfEach, ih]
    by_cases h : key c = key a
    · rw [filter_addNew h.symm, addNew_of_mem List.mem_cons_self h]
    · exact cons_addNew h

theorem foldl_addNew (l : List α) : l.foldl (addNew key) [] = firstOfEach key l := by
  induction l using List.reverseRecOn with
  | nil => rfl
  | append_singleton l a ih => rw [List.foldl_append, ih, firstOfEach_append_singleton, List.foldl_cons, List.foldl_nil]

lemma nodup_firstOfEach (l : List α) : ((firstOfEach key l).map key).Nodup := by
  induction l with
  | nil => exact List.nodup_nil
  | cons a rest ih =>
    rw [firstOfEach, List.map_cons]
    refine List.nodup_cons.mpr ⟨fun h => ?_, ih.sublist (List.filter_sublist.map key)⟩
    obtain ⟨b, hb, hkey⟩ := List.mem_map.mp h
    exact of_decide_eq_true (List.mem_filter.mp hb).2 hkey

lemma firstOfEach_sublist (l : List α) : (firstOfEach key l).Sublist l := by
  induction l with
  | nil => exact .slnil
  | cons a rest ih => exact (List.filter_sublist.trans ih).cons_cons a

lemma find?_firstOfEach (l : List α) (k : β) :
    (firstOfEach key l).find? (fun a => key a = k) = l.find? fun a => key a = k := by
  induction l with
  | nil => rfl
  | cons a rest ih =>
    rw [firstOfEach, List.find?_cons, List.find?_cons]
    by_cases h : key a = k
    · rw [decide_eq_true h]
    · have hk : ∀ b, key b ≠ key a ∧ key b = k ↔ key b = k :=
        fun b => and_iff_right_of_imp fun hb => hb.trans_ne (Ne.symm h)
      rw [decide_eq_false h, List.find?_filter]
      simpa only [decide_eq_true_eq, hk] using ih

lemma forall_firstOfEach_ne (l : List α) (k : β) :
    (∀ a ∈ firstOfEach key l, key a ≠ k) ↔ ∀ a ∈ l, key a ≠ k := by
  have hfind := find?_firstOfEach key l k
  constructor
  · intro h
    have hnone : (firstOfEach key l).find? (fun a => key a = k) = none := by simpa using h
    simpa using hfind.symm.trans hnone
  · intro h
    have hnone : l.find? (fun a => key a = k) = none := by simpa using h
    simpa using hfind.trans hnone

example : firstOfEach String.length ["a", "bc", "d", "ef", ""] = ["a", "bc", ""] := by decide

end SwiftSource
