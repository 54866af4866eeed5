import SwiftSource.Proofs.Script

/-! Braces in texts and in what scripts add. A text without braces has no steps at all, and balanced steps make
braces that nest. -/

namespace SwiftSource

open Steps

namespace Braces

def stepsOf (c : Char) : List Int := if c = '\x7b' then [1] else if c = '\x7d' then [-1] else []

def steps (s : String) : List Int := s.toList.flatMap stepsOf

/-- No prefix closes more braces than it opens, and the whole closes all of them. -/
structure Nest (s : String) : Prop where
  prefixes : ∀ p, p <+: s.toList → p.count '\x7d' ≤ p.count '\x7b'
  total : s.toList.count '\x7b' = s.toList.count '\x7d'

def Free (s : String) : Prop := ∀ c ∈ s.toList, c ≠ '\x7b' ∧ c ≠ '\x7d'

instance (s : String) : Decidable (Free s) := List.decidableBAll _ s.toList

lemma sum_stepsOf (c : Char) : (stepsOf c).sum = ([c].count '\x7b' : Int) - [c].count '\x7d' := by
  by_cases hopen : c = '\x7b'
  · rw [hopen]
    rfl
  · by_cases hclose : c = '\x7d'
    · rw [hclose]
      rfl
    · rw [stepsOf, if_neg hopen, if_neg hclose, List.count_singleton, List.count_singleton]
      simp [hopen, hclose]

lemma sum_flatMap_stepsOf (l : List Char) :
    (l.flatMap stepsOf).sum = (l.count '\x7b' : Int) - l.count '\x7d' := by
  induction l with
  | nil => rfl
  | cons c rest ih =>
    have hc := sum_stepsOf c
    rw [List.flatMap_cons, List.sum_append_int, ih, ← List.singleton_append, List.count_append, List.count_append]
    omega

lemma nest_of_balanced {s : String} (h : Balanced (steps s)) : Nest s := by
  constructor
  · intro p hp
    obtain ⟨rest, hrest⟩ := hp
    have hprefix : p.flatMap stepsOf <+: steps s := ⟨rest.flatMap stepsOf, by rw [← List.flatMap_append, hrest, steps]⟩
    have hpos := h.neverDrops _ hprefix
    rw [sum_flatMap_stepsOf] at hpos
    omega
  · have hsum := h.sum_eq
    rw [steps, sum_flatMap_stepsOf] at hsum
    omega

lemma steps_append (s t : String) : steps (s ++ t) = steps s ++ steps t := by
  rw [steps, String.toList_append, List.flatMap_append]
  rfl

lemma Free.steps_eq {s : String} (h : Free s) : steps s = [] := by
  apply List.flatMap_eq_nil_iff.mpr
  intro c hc
  obtain ⟨hopen, hclose⟩ := h c hc
  rw [stepsOf, if_neg hopen, if_neg hclose]

lemma free_empty : Free "" := by decide

lemma Free.append {s t : String} (hs : Free s) (ht : Free t) : Free (s ++ t) := by
  intro c hc
  rw [String.toList_append, List.mem_append] at hc
  exact hc.elim (hs c) (ht c)

lemma free_join {l : List String} (h : ∀ s ∈ l, Free s) : Free (String.join l) := by
  induction l with
  | nil => decide
  | cons s rest ih =>
    rw [String.join_cons]
    exact (h s List.mem_cons_self).append (ih fun t ht => h t (List.mem_cons_of_mem s ht))

lemma free_intercalate {separator : String} {l : List String} (hs : Free separator) (h : ∀ s ∈ l, Free s) :
    Free (separator.intercalate l) := by
  induction l with
  | nil => exact free_empty
  | cons s rest ih =>
    have hrest := ih fun t ht => h t (List.mem_cons_of_mem s ht)
    cases rest with
    | nil =>
      rw [String.intercalate_singleton]
      exact h s List.mem_cons_self
    | cons t others =>
      rw [String.intercalate_cons_cons]
      exact ((h s List.mem_cons_self).append hs).append hrest

lemma free_atLevel (i : Indent) (level : Nat) : Free (i.atLevel level) := by
  induction level with
  | zero => exact free_empty
  | succ level ih =>
    rw [i.atLevel_succ]
    apply ih.append
    cases i with
    | spaces n =>
      intro c hc
      rw [Indent.unit, String.toList_ofList] at hc
      rw [List.eq_of_mem_replicate hc]
      decide
    | tab => decide

end Braces

open Braces

def Stroke.braceSteps : Stroke → List Int
  | .text s => steps s
  | .indentation _ | .deeper | .higher => []

namespace Script

def braceSteps (s : Script) : List Int := s.flatMap Stroke.braceSteps

@[simp] lemma braceSteps_nil : braceSteps [] = [] := rfl

@[simp] lemma braceSteps_cons (x : Stroke) (s : Script) : braceSteps (x :: s) = x.braceSteps ++ braceSteps s :=
  List.flatMap_cons

@[simp] lemma braceSteps_append (s t : Script) : braceSteps (s ++ t) = braceSteps s ++ braceSteps t :=
  List.flatMap_append

/-- Indentation holds no braces, so only the texts count, at whatever level. -/
theorem steps_renderAll (i : Indent) (level : Nat) (s : Script) :
    steps (Segment.renderAll i (segments level s)) = braceSteps s := by
  induction s generalizing level with
  | nil => exact free_empty.steps_eq
  | cons x rest ih =>
    rw [segments, Segment.renderAll_append, steps_append, ih, braceSteps_cons]
    congr 1
    cases x with
    | text s => simp [Stroke.segments, Segment.render, Stroke.braceSteps]
    | indentation more =>
      simp only [Stroke.segments, Segment.renderAll_cons, Segment.renderAll_nil, String.append_empty]
      exact (free_atLevel i (level + more)).steps_eq
    | deeper => rfl
    | higher => rfl

end Script

end SwiftSource
