import SwiftSource.Writer
import Mathlib.Data.List.Basic
import Mathlib.Tactic.Lemma

/-! The order in which a writer prints modifiers. Ranks tell modifiers apart, whatever the table of the writer, so the
modifiers of a set are listed once each and by ascending ranks. Main statement: of all listings of a set only one
follows a table, and that one is printed. -/

namespace SwiftSource

namespace Modifier

lemma idxOf_guideline (m : Modifier) : guideline.idxOf m = m.position := by
  cases m <;> rfl

/-- Modifiers in a table stand before all others and as the table has them, the others as the guideline has them. -/
def Precedes (table : List Modifier) (m n : Modifier) : Prop :=
  if n ∈ table then m ∈ table ∧ table.idxOf m < table.idxOf n
  else m ∈ table ∨ guideline.idxOf m < guideline.idxOf n

instance (table : List Modifier) (m n : Modifier) : Decidable (Precedes table m n) := by
  unfold Precedes
  infer_instance

end Modifier

structure ModifierSet.IsListing (table : List Modifier) (s : ModifierSet) (l : List Modifier) : Prop where
  nodup : l.Nodup
  mem_iff : ∀ m, m ∈ l ↔ m ∈ s
  ordered : l.Pairwise (Modifier.Precedes table)

namespace Writer

variable (w : Writer)

lemma rank_of_mem {m : Modifier} (h : m ∈ w.modifierOrder) : w.rank m = w.modifierOrder.idxOf m :=
  if_pos (List.idxOf_lt_length_iff.mpr h)

lemma rank_of_not_mem {m : Modifier} (h : m ∉ w.modifierOrder) :
    w.rank m = w.modifierOrder.length + m.position :=
  if_neg (mt List.idxOf_lt_length_iff.mp h)

lemma rank_lt_length_iff {m : Modifier} : w.rank m < w.modifierOrder.length ↔ m ∈ w.modifierOrder := by
  by_cases h : m ∈ w.modifierOrder
  · rw [w.rank_of_mem h]
    exact List.idxOf_lt_length_iff
  · rw [w.rank_of_not_mem h]
    exact iff_of_false (by omega) h

theorem rank_injective : Function.Injective w.rank := by
  intro m n hmn
  by_cases hm : m ∈ w.modifierOrder
  · have hn : n ∈ w.modifierOrder := by
      rwa [← rank_lt_length_iff, ← hmn, rank_lt_length_iff]
    rw [w.rank_of_mem hm, w.rank_of_mem hn] at hmn
    exact (List.idxOf_inj hm).mp hmn
  · have hn : n ∉ w.modifierOrder := by
      rwa [← rank_lt_length_iff, ← hmn, rank_lt_length_iff]
    rw [w.rank_of_not_mem hm, w.rank_of_not_mem hn] at hmn
    exact Modifier.position_injective (Nat.add_left_cancel hmn)

variable (s : ModifierSet)

lemma orderedModifiers_perm : (w.orderedModifiers s).Perm s.toList := List.mergeSort_perm _ _

lemma mem_orderedModifiers {m : Modifier} : m ∈ w.orderedModifiers s ↔ m ∈ s := (w.orderedModifiers_perm s).mem_iff

lemma nodup_orderedModifiers : (w.orderedModifiers s).Nodup := by
  rw [(w.orderedModifiers_perm s).nodup_iff]
  refine s.ascending.imp ?_
  rintro a b hab rfl
  exact StrictlyOrdered.irrefl a hab

theorem pairwise_rank_orderedModifiers : (w.orderedModifiers s).Pairwise fun m n => w.rank m < w.rank n := by
  have hsorted : (w.orderedModifiers s).Pairwise fun m n => decide (w.rank m ≤ w.rank n) := by
    apply List.pairwise_mergeSort
    · intro a b c hab hbc
      exact decide_eq_true (Nat.le_trans (of_decide_eq_true hab) (of_decide_eq_true hbc))
    · intro a b
      rw [Bool.or_eq_true, decide_eq_true_eq, decide_eq_true_eq]
      exact Nat.le_total _ _
  refine (hsorted.and (w.nodup_orderedModifiers s)).imp ?_
  rintro a b ⟨hle, hne⟩
  exact Nat.lt_of_le_of_ne (of_decide_eq_true hle) fun heq => hne (w.rank_injective heq)

lemma rank_lt_iff {m n : Modifier} : w.rank m < w.rank n ↔ Modifier.Precedes w.modifierOrder m n := by
  rw [Modifier.Precedes, Modifier.idxOf_guideline, Modifier.idxOf_guideline]
  by_cases hn : n ∈ w.modifierOrder
  · rw [if_pos hn, w.rank_of_mem hn]
    constructor
    · intro h
      have hm := w.rank_lt_length_iff.mp (Nat.lt_trans h (List.idxOf_lt_length_iff.mpr hn))
      rw [w.rank_of_mem hm] at h
      exact ⟨hm, h⟩
    · rintro ⟨hm, h⟩
      rwa [w.rank_of_mem hm]
  · rw [if_neg hn, w.rank_of_not_mem hn]
    by_cases hm : m ∈ w.modifierOrder
    · have hlt := w.rank_lt_length_iff.mpr hm
      exact iff_of_true (by omega) (.inl hm)
    · rw [w.rank_of_not_mem hm, or_iff_right hm]
      omega

lemma isListing_orderedModifiers : s.IsListing w.modifierOrder (w.orderedModifiers s) where
  nodup := w.nodup_orderedModifiers s
  mem_iff _ := w.mem_orderedModifiers s
  ordered := (w.pairwise_rank_orderedModifiers s).imp w.rank_lt_iff.mp

variable {w s} in
lemma eq_orderedModifiers_of_isListing {l : List Modifier} (h : s.IsListing w.modifierOrder l) :
    l = w.orderedModifiers s := by
  have hperm : l.Perm (w.orderedModifiers s) := by
    apply (List.perm_ext_iff_of_nodup h.nodup (w.nodup_orderedModifiers s)).mpr
    intro m
    rw [h.mem_iff, mem_orderedModifiers]
  have hranks : l.Pairwise fun m n => w.rank m < w.rank n := h.ordered.imp w.rank_lt_iff.mpr
  refine hperm.eq_of_pairwise ?_ hranks (w.pairwise_rank_orderedModifiers s)
  intro m n _ _ hmn hnm
  exact absurd hmn (Nat.lt_asymm hnm)

theorem modifiers_canonical (table : List Modifier) (s : ModifierSet) :
    ∃ l : List Modifier, s.IsListing table l ∧ (∀ k, s.IsListing table k → k = l) ∧
      ∀ w : Writer, w.modifierOrder = table →
        Function.Injective w.rank ∧
        w.modifiers s = w.push (w.indentation ++ String.join (l.map fun m => m.keyword ++ " ")) ∧
        ∀ added : List Modifier, (∀ m, m ∈ added ↔ m ∈ s) → w.modifiers (.ofList added) = w.modifiers s := by
  -- the listing depends on the table alone, so any writer that has the table finds it
  let clerk : Writer := { modifierOrder := table }
  refine ⟨clerk.orderedModifiers s, clerk.isListing_orderedModifiers s, fun k hk => ?_, fun w hw => ?_⟩
  · exact eq_orderedModifiers_of_isListing (w := clerk) hk
  · refine ⟨w.rank_injective, ?_, fun added hadded => ?_⟩
    · have hlisting := w.isListing_orderedModifiers s
      rw [hw] at hlisting
      rw [← eq_orderedModifiers_of_isListing (w := clerk) hlisting, modifiers, pushIndentation, push, push, push,
        String.append_assoc]
    · congr 1
      apply SortedSet.ext
      intro m
      rw [SortedSet.mem_ofList, hadded]

theorem modifiers_canonical_repeated :
    let w : Writer := { level := 1, modifierOrder := [.staticMember, .publicAccess, .staticMember] }
    w.modifiers (.ofList [.weak, .publicAccess, .overriding, .staticMember]) =
      w.push "    static public override weak " := by
  intro w
  let s : ModifierSet := .ofList [.weak, .publicAccess, .overriding, .staticMember]
  have hlisting : s.IsListing w.modifierOrder [.staticMember, .publicAccess, .overriding, .weak] := by
    refine ⟨by decide, fun m => ?_, by decide⟩
    cases m <;> decide
  obtain ⟨l, -, hunique, h⟩ := modifiers_canonical w.modifierOrder s
  obtain ⟨-, hprint, -⟩ := h w rfl
  rw [hprint, ← hunique _ hlisting]
  exact congrArg w.push (by decide)

end Writer

end SwiftSource
