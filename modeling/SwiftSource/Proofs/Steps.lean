import Mathlib.Algebra.Ring.Int.Defs
import Mathlib.Data.List.Infix
import Mathlib.Tactic.Lemma

/-! Steps up and down, of indentation levels as well as of braces. Balanced steps never go below where they
start and end there; they may stand side by side and be wrapped in one step up and one down. -/

namespace SwiftSource.Steps

def NeverDrops (l : List Int) : Prop := ∀ p, p <+: l → 0 ≤ p.sum

structure Balanced (l : List Int) : Prop where
  neverDrops : NeverDrops l
  sum_eq : l.sum = 0

def StaysWithin (limit start : Nat) (l : List Int) : Prop := ∀ p, p <+: l → start + p.sum ≤ limit

instance (l : List Int) : Decidable (NeverDrops l) :=
  decidable_of_iff (∀ p ∈ l.inits, 0 ≤ p.sum) (by simp only [List.mem_inits, NeverDrops])

instance (l : List Int) : Decidable (Balanced l) :=
  decidable_of_iff (NeverDrops l ∧ l.sum = 0) ⟨fun h => ⟨h.1, h.2⟩, fun h => ⟨h.1, h.2⟩⟩

instance (limit start : Nat) (l : List Int) : Decidable (StaysWithin limit start l) :=
  decidable_of_iff (∀ p ∈ l.inits, start + p.sum ≤ limit) (by simp only [List.mem_inits, StaysWithin])

section Prefixes

variable {α : Type} {P : List α → Prop}

lemma forall_prefix_cons {a : α} {l : List α} :
    (∀ p, p <+: a :: l → P p) ↔ P [] ∧ ∀ p, p <+: l → P (a :: p) := by
  simp only [List.prefix_cons_iff]
  constructor
  · intro h
    exact ⟨h [] (.inl rfl), fun p hp => h (a :: p) (.inr ⟨p, rfl, hp⟩)⟩
  · rintro ⟨h, hl⟩ p (rfl | ⟨q, rfl, hq⟩)
    · exact h
    · exact hl q hq

lemma forall_prefix_append {l m : List α} :
    (∀ p, p <+: l ++ m → P p) ↔ (∀ p, p <+: l → P p) ∧ ∀ p, p <+: m → P (l ++ p) := by
  constructor
  · intro h
    exact ⟨fun p hp => h p (hp.trans (List.prefix_append l m)),
      fun p hp => h (l ++ p) ((List.prefix_append_right_inj l).mpr hp)⟩
  · rintro ⟨hl, hm⟩ p hp
    rcases List.prefix_or_prefix_of_prefix hp (List.prefix_append l m) with h | ⟨q, rfl⟩
    · exact hl p h
    · exact hm q ((List.prefix_append_right_inj l).mp hp)

end Prefixes

@[simp] lemma neverDrops_nil : NeverDrops [] := by
  intro p hp
  simp [List.prefix_nil.mp hp]

@[simp] lemma balanced_nil : Balanced [] := ⟨neverDrops_nil, rfl⟩

lemma Balanced.append {l m : List Int} (hl : Balanced l) (hm : Balanced m) : Balanced (l ++ m) := by
  refine ⟨forall_prefix_append.mpr ⟨hl.neverDrops, ?_⟩, ?_⟩
  · intro p hp
    have h := hm.neverDrops p hp
    rwa [List.sum_append_int, hl.sum_eq, Int.zero_add]
  · rw [List.sum_append_int, hl.sum_eq, hm.sum_eq, Int.zero_add]

lemma Balanced.wrap {l : List Int} (h : Balanced l) : Balanced (1 :: (l ++ [-1])) := by
  have hsum := h.sum_eq
  refine ⟨forall_prefix_cons.mpr ⟨by simp, forall_prefix_append.mpr ⟨?_, ?_⟩⟩, ?_⟩
  · intro p hp
    have hp' := h.neverDrops p hp
    rw [List.sum_cons]
    omega
  · refine forall_prefix_cons.mpr ⟨?_, ?_⟩
    · simp [hsum]
    · intro p hp
      simp [List.prefix_nil.mp hp, hsum]
  · simp [hsum]

lemma Balanced.flatMap {α : Type} {f : α → List Int} {l : List α} (h : ∀ a ∈ l, Balanced (f a)) :
    Balanced (l.flatMap f) := by
  induction l with
  | nil => exact balanced_nil
  | cons a rest ih =>
    rw [List.flatMap_cons]
    exact (h a List.mem_cons_self).append (ih fun b hb => h b (List.mem_cons_of_mem a hb))

lemma StaysWithin.left {limit start : Nat} {l m : List Int} (h : StaysWithin limit start (l ++ m)) :
    StaysWithin limit start l := (forall_prefix_append.mp h).1

lemma StaysWithin.right {limit start next : Nat} {l m : List Int} (h : StaysWithin limit start (l ++ m))
    (hn : (next : Int) = start + l.sum) : StaysWithin limit next m := by
  intro p hp
  have hp' := (forall_prefix_append.mp h).2 p hp
  rw [List.sum_append_int] at hp'
  omega

lemma StaysWithin.start_le {limit start : Nat} {l : List Int} (h : StaysWithin limit start l) : start ≤ limit := by
  have hstart := h [] List.nil_prefix
  rw [List.sum_nil] at hstart
  omega

lemma StaysWithin.of_wrap {limit start : Nat} {l : List Int} (h : StaysWithin limit start (1 :: (l ++ [-1]))) :
    StaysWithin limit (start + 1) l :=
  (StaysWithin.right (l := [1]) h (by simp)).left

lemma StaysWithin.of_mem {α : Type} {limit start : Nat} {f : α → List Int} {l : List α} {a : α} (ha : a ∈ l)
    (hb : ∀ b ∈ l, Balanced (f b)) (h : StaysWithin limit start (l.flatMap f)) : StaysWithin limit start (f a) := by
  induction l with
  | nil => exact absurd ha List.not_mem_nil
  | cons b rest ih =>
    rw [List.flatMap_cons] at h
    rcases List.mem_cons.mp ha with rfl | hrest
    · exact h.left
    · have hsum := (hb b List.mem_cons_self).sum_eq
      exact ih hrest (fun c hc => hb c (List.mem_cons_of_mem b hc)) (h.right (by omega))

/-- From the start the steps pass neither nothing nor the limit. -/
def Fits (limit start : Nat) (l : List Int) : Prop :=
  ∀ p, p <+: l → 0 ≤ start + p.sum ∧ start + p.sum ≤ limit

lemma Fits.of_append {limit start next : Nat} {l m : List Int} (h : Fits limit start (l ++ m))
    (hn : (next : Int) = start + l.sum) : Fits limit next m := by
  intro p hp
  have hp' := (forall_prefix_append.mp h).2 p hp
  rw [List.sum_append_int] at hp'
  omega

lemma NeverDrops.fits {limit start : Nat} {l : List Int} (h : NeverDrops l) (hl : StaysWithin limit start l) :
    Fits limit start l := by
  intro p hp
  have h₀ := h p hp
  have h₁ := hl p hp
  omega

lemma NeverDrops.fits_of_add {limit start more : Nat} {l : List Int} (h : NeverDrops l)
    (hl : StaysWithin limit (start + more) l) : Fits limit start l := by
  intro p hp
  have h₀ := h p hp
  have h₁ := hl p hp
  omega

example : Balanced [1, 1, -1, -1, 1, -1] := by decide

end SwiftSource.Steps
