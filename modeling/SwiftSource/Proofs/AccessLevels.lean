import SwiftSource.Modifier
import Mathlib.Tactic.Lemma

/-! The access level of a set of modifiers. Of several levels the most visible one counts, and `internal` where there
is none. -/

namespace SwiftSource

lemma find?_of_ascending {α : Type} [LT α] [StrictlyOrdered α] {p : α → Bool} {l : List α} {a : α}
    (h : l.Pairwise (· < ·)) : l.find? p = some a ↔ a ∈ l ∧ p a = true ∧ ∀ b ∈ l, p b = true → ¬b < a := by
  induction h with
  | nil => simp
  | @cons c rest hc _ ih =>
    cases hp : p c with
    | true =>
      rw [List.find?_cons_of_pos hp, Option.some_inj]
      constructor
      · rintro rfl
        refine ⟨List.mem_cons_self, hp, List.forall_mem_cons.mpr ⟨fun _ => StrictlyOrdered.irrefl c, ?_⟩⟩
        exact fun b hb _ => SortedSet.lt_asymm (hc b hb)
      · rintro ⟨hmem, -, hleast⟩
        rcases List.mem_cons.mp hmem with heq | hrest
        · exact heq.symm
        · exact absurd (hc a hrest) (hleast c List.mem_cons_self hp)
    | false =>
      rw [List.find?_cons_of_neg (Bool.eq_false_iff.mp hp), ih]
      have hne : p a = true → a ≠ c := by
        rintro ha rfl
        exact Bool.noConfusion (ha.symm.trans hp)
      grind

namespace ModifierSet

variable {s outer member : ModifierSet} {a : Modifier}

/-- Modifiers are in an order in which a more visible level comes first. -/
structure IsMostVisible (s : ModifierSet) (a : Modifier) : Prop where
  mem : a ∈ s
  isAccessLevel : a.isAccessLevel = true
  not_lt : ∀ b ∈ s, b.isAccessLevel = true → ¬b < a

def IsEffective (s : ModifierSet) (a : Modifier) : Prop :=
  s.IsMostVisible a ∨ a = .internalAccess ∧ ∀ b ∈ s, b.isAccessLevel = false

lemma mem_accessLevels : a ∈ Modifier.accessLevels ↔ a.isAccessLevel = true := List.contains_iff_mem.symm

lemma accessLevel_eq_some : s.accessLevel = some a ↔ s.IsMostVisible a := by
  have hascending : Modifier.accessLevels.Pairwise (· < ·) := by decide
  rw [accessLevel, find?_of_ascending hascending]
  simp only [mem_accessLevels, decide_eq_true_eq]
  exact ⟨fun ⟨hlevel, hmem, hleast⟩ => ⟨hmem, hlevel, fun b hb hb' => hleast b hb' hb⟩,
    fun ⟨hmem, hlevel, hleast⟩ => ⟨hlevel, hmem, fun b hb' hb => hleast b hb hb'⟩⟩

lemma accessLevel_eq_none : s.accessLevel = none ↔ ∀ b ∈ s, b.isAccessLevel = false := by
  rw [accessLevel, List.find?_eq_none]
  simp only [mem_accessLevels, decide_eq_true_eq, ← Bool.not_eq_true]
  exact ⟨fun h b hb hlevel => h b hlevel hb, fun h b hlevel hb => h b hb hlevel⟩

lemma effectiveAccessLevel_eq : s.effectiveAccessLevel = a ↔ s.IsEffective a := by
  rw [effectiveAccessLevel, IsEffective, ← accessLevel_eq_some, ← accessLevel_eq_none]
  cases s.accessLevel <;> simp [eq_comm]

lemma sameAccess_iff : SameAccess outer member ↔ ∃ a, outer.IsEffective a ∧ member.IsEffective a := by
  simp only [← effectiveAccessLevel_eq, exists_eq_left']
  exact eq_comm

end ModifierSet

end SwiftSource
