/-!
Finite sets kept as ascending lists, so that two sets with the same members are equal and every
listing of a set is in one order.
-/
namespace SwiftSource

/-- A strict order in which any two different elements compare. -/
class StrictlyOrdered (α : Type) [LT α] : Prop where
  irrefl (a : α) : ¬a < a
  trans {a b c : α} : a < b → b < c → a < c
  connected {a b : α} : ¬a < b → ¬b < a → a = b

instance : StrictlyOrdered String where
  irrefl := String.lt_irrefl
  trans := String.lt_trans
  connected h h' := String.le_antisymm (String.not_lt.mp h') (String.not_lt.mp h)

structure SortedSet (α : Type) [LT α] where
  toList : List α
  ascending : toList.Pairwise (· < ·)
  deriving DecidableEq

namespace SortedSet

variable {α : Type} [LT α]

instance : Membership α (SortedSet α) := ⟨fun s a => a ∈ s.toList⟩

instance [DecidableEq α] (a : α) (s : SortedSet α) : Decidable (a ∈ s) :=
  inferInstanceAs (Decidable (a ∈ s.toList))

theorem mem_toList {s : SortedSet α} {a : α} : a ∈ s.toList ↔ a ∈ s := Iff.rfl

def empty : SortedSet α := ⟨[], .nil⟩

instance : EmptyCollection (SortedSet α) := ⟨empty⟩

instance : Inhabited (SortedSet α) := ⟨∅⟩

@[simp]
theorem not_mem_empty (a : α) : a ∉ (∅ : SortedSet α) := List.not_mem_nil

def isEmpty (s : SortedSet α) : Bool := s.toList.isEmpty

def filter (s : SortedSet α) (p : α → Bool) : SortedSet α := ⟨s.toList.filter p, s.ascending.filter p⟩

@[simp]
theorem mem_filter {s : SortedSet α} {p : α → Bool} {a : α} : a ∈ s.filter p ↔ a ∈ s ∧ p a = true :=
  List.mem_filter

section Extensionality

variable [StrictlyOrdered α]

theorem lt_asymm {a b : α} (h : a < b) : ¬b < a := fun h' => StrictlyOrdered.irrefl a (StrictlyOrdered.trans h h')

theorem eq_of_mem_iff {l m : List α} (hl : l.Pairwise (· < ·)) (hm : m.Pairwise (· < ·))
    (h : ∀ a, a ∈ l ↔ a ∈ m) : l = m := by
  induction hl generalizing m with
  | nil => exact (List.eq_nil_iff_forall_not_mem.mpr fun a ha => List.not_mem_nil ((h a).mpr ha)).symm
  | @cons b rest hb _ ih =>
    cases hm with
    | nil => exact absurd ((h b).mp List.mem_cons_self) List.not_mem_nil
    | @cons c others hc hothers =>
      have hbc : b = c := by
        rcases List.mem_cons.mp ((h b).mp List.mem_cons_self) with heq | hbm
        · exact heq
        · rcases List.mem_cons.mp ((h c).mpr List.mem_cons_self) with heq | hcm
          · exact heq.symm
          · exact absurd (hb c hcm) (lt_asymm (hc b hbm))
      subst hbc
      congr 1
      refine ih hothers fun a => ⟨fun ha => ?_, fun ha => ?_⟩
      · rcases List.mem_cons.mp ((h a).mp (List.mem_cons_of_mem b ha)) with rfl | h'
        · exact absurd (hb a ha) (StrictlyOrdered.irrefl a)
        · exact h'
      · rcases List.mem_cons.mp ((h a).mpr (List.mem_cons_of_mem b ha)) with rfl | h'
        · exact absurd (hc a ha) (StrictlyOrdered.irrefl a)
        · exact h'

theorem ext {s t : SortedSet α} (h : ∀ a, a ∈ s ↔ a ∈ t) : s = t := by
  obtain ⟨l, hl⟩ := s
  obtain ⟨m, hm⟩ := t
  obtain rfl := eq_of_mem_iff hl hm h
  rfl

end Extensionality

section Insertion

variable [DecidableEq α] [DecidableLT α]

def place (a : α) : List α → List α
  | [] => [a]
  | b :: rest => if a < b then a :: b :: rest else if a = b then b :: rest else b :: place a rest

theorem mem_place {a b : α} {l : List α} : b ∈ place a l ↔ b = a ∨ b ∈ l := by
  induction l with
  | nil => simp [place]
  | cons c rest ih => grind [place]

variable [StrictlyOrdered α]

theorem place_ascending (a : α) {l : List α} (h : l.Pairwise (· < ·)) : (place a l).Pairwise (· < ·) := by
  induction h with
  | nil => simp [place]
  | @cons b rest hb hrest ih =>
    rw [place]
    split
    next hab =>
      refine .cons (fun c hc => ?_) (.cons hb hrest)
      rcases List.mem_cons.mp hc with rfl | hc
      · exact hab
      · exact StrictlyOrdered.trans hab (hb c hc)
    next hab =>
      split
      next => exact .cons hb hrest
      next hne =>
        refine .cons (fun c hc => ?_) ih
        rcases mem_place.mp hc with rfl | hc
        · exact Decidable.of_not_not fun h => hne (StrictlyOrdered.connected hab h)
        · exact hb c hc

def insert (s : SortedSet α) (a : α) : SortedSet α := ⟨place a s.toList, place_ascending a s.ascending⟩

@[simp]
theorem mem_insert {s : SortedSet α} {a b : α} : b ∈ s.insert a ↔ b = a ∨ b ∈ s := mem_place

def insertAll (s : SortedSet α) (l : List α) : SortedSet α := l.foldl insert s

@[simp]
theorem mem_insertAll {s : SortedSet α} {l : List α} {b : α} : b ∈ s.insertAll l ↔ b ∈ l ∨ b ∈ s := by
  induction l generalizing s with
  | nil => simp [insertAll]
  | cons a rest ih =>
    have h := @ih (s.insert a)
    simp only [insertAll, List.foldl_cons] at h ⊢
    rw [h]
    simp [or_left_comm, or_assoc]

def ofList (l : List α) : SortedSet α := (∅ : SortedSet α).insertAll l

@[simp]
theorem mem_ofList {l : List α} {b : α} : b ∈ ofList l ↔ b ∈ l := by simp [ofList]

def union (s t : SortedSet α) : SortedSet α := s.insertAll t.toList

instance : Union (SortedSet α) := ⟨union⟩

@[simp]
theorem mem_union {s t : SortedSet α} {a : α} : a ∈ s ∪ t ↔ a ∈ s ∨ a ∈ t := by
  change a ∈ s.insertAll t.toList ↔ _
  rw [mem_insertAll, or_comm, mem_toList]

def unions (sets : List (SortedSet α)) : SortedSet α := sets.foldr union ∅

@[simp]
theorem mem_unions {sets : List (SortedSet α)} {a : α} : a ∈ unions sets ↔ ∃ s ∈ sets, a ∈ s := by
  induction sets with
  | nil => simp [unions]
  | cons s rest ih =>
    change a ∈ s ∪ unions rest ↔ _
    simp [ih]

end Insertion

end SortedSet

end SwiftSource
