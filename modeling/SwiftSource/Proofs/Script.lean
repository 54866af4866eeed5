import SwiftSource.Documentation
import SwiftSource.Proofs.Steps

/-! Scripts of strokes. A stroke adds a text or an indentation, or moves the level; what a script adds at a
level is a list of segments in which only the unit of indentation is open. -/

namespace SwiftSource

open Steps

inductive Stroke where
  | text (s : String)
  | indentation (more : Nat)
  | deeper
  | higher
  deriving DecidableEq

abbrev Script := List Stroke

inductive Segment where
  | text (s : String)
  | indent (depth : Nat)
  deriving DecidableEq

namespace Segment

def render (i : Indent) : Segment → String
  | .text s => s
  | .indent depth => i.atLevel depth

def raise (levels : Nat) : Segment → Segment
  | .text s => .text s
  | .indent depth => .indent (depth + levels)

def renderAll (i : Indent) (l : List Segment) : String := String.join (l.map (render i))

@[simp] lemma renderAll_nil (i : Indent) : renderAll i [] = "" := String.join_nil

@[simp] lemma renderAll_cons (i : Indent) (s : Segment) (l : List Segment) :
    renderAll i (s :: l) = s.render i ++ renderAll i l := by
  simp only [renderAll, List.map_cons, String.join_cons]

lemma renderAll_append (i : Indent) (l m : List Segment) :
    renderAll i (l ++ m) = renderAll i l ++ renderAll i m := by
  simp only [renderAll, List.map_append, String.join_append]

end Segment

namespace Stroke

def levelAfter (level : Nat) : Stroke → Nat
  | .text _ | .indentation _ => level
  | .deeper => min (level + 1) Writer.deepest
  | .higher => level - 1

def segments (level : Nat) : Stroke → List Segment
  | .text s => [.text s]
  | .indentation more => [.indent (level + more)]
  | .deeper | .higher => []

def changes : Stroke → List Int
  | .text _ | .indentation _ => []
  | .deeper => [1]
  | .higher => [-1]

end Stroke

namespace Script

def levelAfter (level : Nat) (s : Script) : Nat := s.foldl Stroke.levelAfter level

def segments : Nat → Script → List Segment
  | _, [] => []
  | level, x :: rest => x.segments level ++ segments (x.levelAfter level) rest

def changes (s : Script) : List Int := s.flatMap Stroke.changes

@[simp] lemma changes_nil : changes [] = [] := rfl

@[simp] lemma changes_cons (x : Stroke) (s : Script) : changes (x :: s) = x.changes ++ changes s :=
  List.flatMap_cons

@[simp] lemma changes_append (s t : Script) : changes (s ++ t) = changes s ++ changes t := List.flatMap_append

lemma changes_flatMap {α : Type} (f : α → Script) (l : List α) :
    changes (l.flatMap f) = l.flatMap fun a => changes (f a) := List.flatMap_assoc

end Script

lemma Stroke.levelAfter_eq {level : Nat} {x : Stroke} {l : List Int}
    (h : Fits Writer.deepest level (x.changes ++ l)) : (x.levelAfter level : Int) = level + x.changes.sum := by
  obtain ⟨h₀, h₁⟩ := h x.changes (List.prefix_append x.changes l)
  cases x <;> simp [changes, levelAfter] at h₀ h₁ ⊢ <;> omega

namespace Script

theorem levelAfter_eq {level : Nat} {s : Script} (h : Fits Writer.deepest level (changes s)) :
    (levelAfter level s : Int) = level + (changes s).sum := by
  induction s generalizing level with
  | nil => simp [levelAfter]
  | cons x rest ih =>
    rw [changes_cons] at h ⊢
    have hx := Stroke.levelAfter_eq h
    have hrest := ih (h.of_append hx)
    change (levelAfter (x.levelAfter level) rest : Int) = _
    rw [hrest, hx, List.sum_append_int, Int.add_assoc]

theorem segments_add {level more : Nat} {s : Script} (h : Fits Writer.deepest level (changes s))
    (hm : Fits Writer.deepest (level + more) (changes s)) :
    segments (level + more) s = (segments level s).map (Segment.raise more) := by
  induction s generalizing level with
  | nil => rfl
  | cons x rest ih =>
    rw [changes_cons] at h hm
    have hx := Stroke.levelAfter_eq h
    have hxm := Stroke.levelAfter_eq hm
    have hlevel : x.levelAfter (level + more) = x.levelAfter level + more := by omega
    have hrest := hm.of_append hxm
    rw [hlevel] at hrest
    simp only [segments, List.map_append, hlevel, ih (h.of_append hx) hrest]
    congr 1
    cases x <;> simp [Stroke.segments, Segment.raise, Nat.add_right_comm]

end Script

namespace Writer

@[simp] lemma push_empty (w : Writer) : w.push "" = w := by
  simp only [push, String.append_empty]

@[simp] lemma push_push (w : Writer) (a b : String) : (w.push a).push b = w.push (a ++ b) := by
  simp only [push, String.append_assoc]

def play (w : Writer) : Stroke → Writer
  | .text s => w.push s
  | .indentation more => w.push (w.indentationAt (w.level + more))
  | .deeper => w.indent
  | .higher => w.unindent

def run (w : Writer) (s : Script) : Writer := s.foldl play w

@[simp] lemma run_nil (w : Writer) : w.run [] = w := rfl

lemma run_cons (w : Writer) (x : Stroke) (s : Script) : w.run (x :: s) = (w.play x).run s := rfl

lemma play_eq (w : Writer) (x : Stroke) :
    w.play x = { w with
      text := w.text ++ Segment.renderAll w.conventions.indent (x.segments w.level)
      level := x.levelAfter w.level } := by
  cases x with
  | text s => simp [play, push, Stroke.segments, Stroke.levelAfter, Segment.render]
  | indentation more => simp [play, push, indentationAt, Stroke.segments, Stroke.levelAfter, Segment.render]
  | deeper => simp [play, indent, indentBy, Stroke.segments, Stroke.levelAfter]
  | higher => simp [play, unindent, unindentBy, Stroke.segments, Stroke.levelAfter]

theorem run_eq (w : Writer) (s : Script) :
    w.run s = { w with
      text := w.text ++ Segment.renderAll w.conventions.indent (Script.segments w.level s)
      level := Script.levelAfter w.level s } := by
  induction s generalizing w with
  | nil => simp [run, Script.segments, Script.levelAfter]
  | cons x rest ih =>
    have h := ih (w.play x)
    rw [run] at h ⊢
    rw [List.foldl_cons, h, play_eq]
    simp [Script.segments, Script.levelAfter, Segment.renderAll_append, String.append_assoc]

@[simp] lemma run_run (w : Writer) (s t : Script) : (w.run s).run t = w.run (s ++ t) := List.foldl_append.symm

@[simp] lemma run_modifierOrder (w : Writer) (s : Script) : (w.run s).modifierOrder = w.modifierOrder := by
  rw [run_eq]

/-- To every writer that stands as this one does, under its conventions and its order of modifiers, the
operation adds the text and nothing else. -/
def Adds (w : Writer) (op : Writer → Writer) (text : String) : Prop :=
  ∀ v : Writer, v.conventions = w.conventions → v.modifierOrder = w.modifierOrder → v.level = w.level →
    op v = v.push text

def spelling (w : Writer) (s : Script) : String :=
  Segment.renderAll w.conventions.indent (Script.segments w.level s)

def added (w : Writer) (op : Writer → Writer) : String := (op { w with text := "" }).text

/-- Neither what the operation adds nor where it leads hangs on the text that is there. -/
def Appends (op : Writer → Writer) : Prop :=
  ∀ (w : Writer) (t : String), op { w with text := t } = { op w with text := t ++ w.added op }

section Runs

variable {op : Writer → Writer} (script : List Modifier → Script)
  (hrun : ∀ v : Writer, op v = v.run (script v.modifierOrder))
include hrun

lemma added_of_run (w : Writer) : w.added op = w.spelling (script w.modifierOrder) := by
  rw [added, hrun, run_eq]
  exact String.empty_append

lemma appends_of_run : Appends op := by
  intro w t
  rw [added_of_run script hrun, hrun, hrun, run_eq, run_eq]
  rfl

end Runs

abbrev Spells (w : Writer) (s : Script) (text : String) : Prop := w.Adds (fun v => v.run s) text

variable {w : Writer}

lemma Spells.append {s t : Script} {a b : String} (hs : w.Spells s a) (ht : w.Spells t b) :
    w.Spells (s ++ t) (a ++ b) := by
  intro v hc ho hl
  calc v.run (s ++ t) = (v.run s).run t := (v.run_run s t).symm
    _ = (v.push a).run t := congrArg (fun u => run u t) (hs v hc ho hl)
    _ = (v.push a).push b := ht (v.push a) hc ho hl
    _ = v.push (a ++ b) := v.push_push a b

lemma spells_nil : w.Spells [] "" := fun v _ _ _ => v.push_empty.symm

lemma spells_text (s : String) : w.Spells [.text s] s := fun _ _ _ _ => rfl

lemma spells_indentation (more : Nat) : w.Spells [.indentation more] (w.indentationAt (w.level + more)) := by
  intro v hc _ hl
  simp only [run_cons, run_nil, play, indentationAt, hc, hl]

lemma Spells.flatMap {α : Type} {f : α → Script} {g : α → String} (h : ∀ a, w.Spells (f a) (g a)) (l : List α) :
    w.Spells (l.flatMap f) (String.join (l.map g)) := by
  induction l with
  | nil => exact spells_nil
  | cons a rest ih =>
    rw [List.map_cons, String.join_cons, List.flatMap_cons]
    exact (h a).append ih

/-- Balanced changes of level lead back to where they started, so all that is left of a script is its text. -/
lemma spells_of_balanced {s : Script} (hb : Balanced s.changes) (hr : StaysWithin deepest w.level s.changes) :
    w.Spells s (w.spelling s) := by
  intro v hc _ hl
  have h := Script.levelAfter_eq (hb.neverDrops.fits hr)
  rw [hb.sum_eq] at h
  have hlevel : Script.levelAfter v.level s = v.level := by
    rw [hl]
    omega
  change v.run s = _
  rw [run_eq, hlevel, spelling, ← hc, ← hl]
  rfl

end Writer

end SwiftSource
