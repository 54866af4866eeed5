import SwiftSource.Proofs.FlowLayout

/-! Fragments spliced into one. They add what they add one after another, but for a space in front of a word that is
no longer the first of its fragment. -/

namespace SwiftSource

open Writer

lemma Instruction.appends_print (i : Instruction) (isFirst : Bool) : Appends (i.print isFirst) :=
  appends_of_run (fun order => Script.ofInstruction order i isFirst) (i.print_eq_run isFirst)

def Instruction.isSpaced : Instruction → Bool
  | .token t => !t.isGlued
  | .inline _ => true
  | _ => false

lemma Instruction.isSpaced_of_nested {i : Instruction} (h : i.isNested = true) : i.isSpaced = false := by
  cases i with
  | nested body => rfl
  | _ => cases h

lemma Instruction.print_false (i : Instruction) (w : Writer) :
    i.print false w = i.print true (w.push (if i.isSpaced then " " else "")) := by
  cases i with
  | token t => cases h : t.isGlued <;> simp [print, isSpaced, Writer.token, h]
  | inline piece => simp [print, isSpaced]
  | _ => simp [print, isSpaced]

namespace Fragment

def leadingNests (f : Fragment) : Fragment := f.takeWhile Instruction.isNested

def afterNests (f : Fragment) : Fragment := f.dropWhile Instruction.isNested

/-- Whether a space separates the first instruction that is no nested fragment from what is printed before it. -/
def isSpaced (f : Fragment) : Bool := f.afterNests.head?.any Instruction.isSpaced

def gap (a b : Fragment) : String := if !a.onlyNests && b.isSpaced then " " else ""

def front (f : Fragment) (v : Writer) : Writer := f.leadingNests.print v

/-- From `v` to `u` the fragment is printed with a gap in front of its first instruction that is no nested fragment. -/
structure PrintsBehind (f : Fragment) (gap : String) (v u : Writer) : Prop where
  text_print : (f.print v).text = (f.front v).text ++ (f.front v).added f.afterNests.print
  eq : u = { f.print v with text := (f.front v).text ++ gap ++ (f.front v).added f.afterNests.print }
  starts : ∀ i rest, f.afterNests = i :: rest →
    ∃ t, (f.front v).added f.afterNests.print = (f.front v).added (i.print true) ++ t

lemma print_eq_afterNests (f : Fragment) (v : Writer) : f.print v = f.afterNests.print (f.front v) := by
  have hnests : onlyNests f.leadingNests = true := List.all_takeWhile
  have h := printFrom_append f.leadingNests f.afterNests true v
  rw [hnests, leadingNests, afterNests, List.takeWhile_append_dropWhile] at h
  exact h

lemma afterNests_of_not_nested {i : Instruction} (h : i.isNested = false) (rest : Fragment) :
    afterNests (i :: rest) = i :: rest :=
  List.dropWhile_cons_of_neg (by simp [h])

lemma front_of_not_nested {i : Instruction} (h : i.isNested = false) (rest : Fragment) (v : Writer) :
    front (i :: rest) v = v := by
  rw [front, leadingNests, List.takeWhile_cons_of_neg (by simp [h])]
  rfl

lemma front_of_nested {i : Instruction} (h : i.isNested = true) (rest : Fragment) (v : Writer) :
    front (i :: rest) v = front rest (i.print true v) := by
  rw [front, leadingNests, List.takeWhile_cons_of_pos h, print, printFrom, h]
  rfl

lemma printFrom_false (f : Fragment) (v : Writer) :
    printFrom f false v = f.afterNests.print ((f.front v).push (if f.isSpaced then " " else "")) := by
  induction f generalizing v with
  | nil => exact v.push_empty.symm
  | cons i rest ih =>
    rw [printFrom, Bool.false_and, i.print_false]
    cases hn : i.isNested with
    | true =>
      have hafter : afterNests (i :: rest) = afterNests rest := List.dropWhile_cons_of_pos hn
      rw [ih, i.isSpaced_of_nested hn, if_neg Bool.false_ne_true, push_empty, isSpaced, isSpaced, hafter,
        front_of_nested hn]
    | false =>
      rw [isSpaced, afterNests_of_not_nested hn, front_of_not_nested hn, print, printFrom, hn]
      rfl

lemma printsBehind (f : Fragment) (gap : String) (v : Writer) :
    PrintsBehind f gap v (f.afterNests.print ((f.front v).push gap)) where
  text_print := by
    rw [print_eq_afterNests]
    exact congrArg Writer.text (f.afterNests.appends_print (f.front v) (f.front v).text)
  eq := by
    rw [print_eq_afterNests f v]
    exact f.afterNests.appends_print (f.front v) ((f.front v).text ++ gap)
  starts i rest h := by
    rw [h]
    have hrest := appends_printFrom rest (true && i.isNested) (i.print true { f.front v with text := "" })
    exact ⟨_, congrArg Writer.text (hrest _)⟩

lemma printsBehind_append (a b : Fragment) (w : Writer) : PrintsBehind b (gap a b) (a.print w) (print (a ++ b) w) := by
  have h := printsBehind b (gap a b) (a.print w)
  have happend : print (a ++ b) w = printFrom b a.onlyNests (a.print w) := printFrom_append a b true w
  rw [happend]
  cases hn : a.onlyNests with
  | true =>
    have hgap : gap a b = "" := by rw [gap, hn]; rfl
    rw [hgap, push_empty, ← print_eq_afterNests] at h
    rw [hgap]
    exact h
  | false =>
    have hgap : gap a b = if b.isSpaced then " " else "" := by rw [gap, hn]; rfl
    rw [printFrom_false, ← hgap]
    exact h

def printEach (l : List Fragment) (w : Writer) : Writer := l.foldl (fun v f => f.print v) w

def addedByEach : List Fragment → Writer → List String
  | [], _ => []
  | f :: rest, w => w.added f.print :: addedByEach rest (f.print w)

lemma addedByEach_withText (l : List Fragment) (w : Writer) (t : String) :
    addedByEach l { w with text := t } = addedByEach l w := by
  induction l generalizing w t with
  | nil => rfl
  | cons f rest ih =>
    rw [addedByEach, addedByEach, f.appends_print w t, ih]
    rfl

lemma printEach_withText (l : List Fragment) (w : Writer) (t : String) :
    printEach l { w with text := t } = { printEach l w with text := t ++ String.join (addedByEach l w) } := by
  induction l generalizing w t with
  | nil => simp [printEach, addedByEach]
  | cons f rest ih =>
    have h := ih (f.print w) (t ++ w.added f.print)
    rw [← f.appends_print w t, String.append_assoc, ← String.join_cons] at h
    exact h

def IsControlFlow (f : Fragment) : Prop :=
  (∃ x : Flow, f = x.fragment) ∨ ∃ value cases default, f = switchOn value cases default

lemma IsControlFlow.eq_cons {f : Fragment} (h : IsControlFlow f) : ∃ text rest, f = .ofText text :: rest := by
  rcases h with ⟨x, rfl⟩ | ⟨value, cases, default, rfl⟩
  · cases x <;> exact ⟨_, _, rfl⟩
  · exact ⟨_, _, rfl⟩

lemma print_append_flow {f g : Fragment} (hf : IsControlFlow f) (hg : IsControlFlow g) (rest : Fragment)
    (w : Writer) : print (f ++ (g ++ rest)) w = print (g ++ rest) ((f.print w).push " ") := by
  obtain ⟨_, _, rfl⟩ := hf.eq_cons
  obtain ⟨_, _, rfl⟩ := hg.eq_cons
  exact printFrom_append _ _ true w

lemma print_flatten {l : List Fragment} (h : ∀ f ∈ l, IsControlFlow f) (w : Writer) :
    print l.flatten w = { printEach l w with text := w.text ++ " ".intercalate (addedByEach l w) } := by
  induction l generalizing w with
  | nil =>
    rw [addedByEach, String.intercalate_nil, String.append_empty]
    rfl
  | cons f rest ih =>
    have hprint := f.appends_print w w.text
    cases rest with
    | nil =>
      rw [List.flatten_singleton, addedByEach, addedByEach, String.intercalate_singleton]
      exact hprint
    | cons g others =>
      obtain ⟨hf, hothers⟩ := List.forall_mem_cons.mp h
      have htext : (f.print w).text = w.text ++ w.added f.print := congrArg Writer.text hprint
      have hrest := ih hothers ((f.print w).push " ")
      rw [push, addedByEach_withText, printEach_withText] at hrest
      have hne : addedByEach (g :: others) (f.print w) ≠ [] := List.cons_ne_nil _ _
      rw [addedByEach, String.intercalate_cons_of_ne_nil hne, ← String.append_assoc, ← String.append_assoc, ← htext]
      exact (print_append_flow hf (hothers g List.mem_cons_self) others.flatten w).trans hrest

theorem print_spliced :
    (∀ (a b : Fragment) (w : Writer), PrintsBehind b (gap a b) (a.print w) (print (a ++ b) w)) ∧
    (∀ l : List Fragment, (∀ f ∈ l, IsControlFlow f) → ∀ w : Writer,
      (printEach l w).text = w.text ++ String.join (addedByEach l w) ∧
      print l.flatten w = { printEach l w with text := w.text ++ " ".intercalate (addedByEach l w) }) ∧
    ∀ (c : Comparison) (w : Writer), ∃ v : Writer,
      PrintsBehind (ofText c.comparator.symbol) (gap c.left (ofText c.comparator.symbol)) (print c.left w) v ∧
      PrintsBehind c.right (gap (ofText c.comparator.symbol) c.right) v (c.print w) := by
  refine ⟨printsBehind_append, fun l h w => ⟨?_, print_flatten h w⟩, fun c w => ?_⟩
  · exact congrArg Writer.text (printEach_withText l w w.text)
  · refine ⟨_, printsBehind_append c.left (ofText c.comparator.symbol) w, ?_⟩
    have hgap : gap (c.left ++ ofText c.comparator.symbol) c.right = gap (ofText c.comparator.symbol) c.right := by
      simp [gap, onlyNests, ofText, Instruction.isNested, Instruction.ofText]
    have h := printsBehind_append (c.left ++ ofText c.comparator.symbol) c.right w
    rw [List.append_assoc, hgap] at h
    rw [c.print_eq_printFrom]
    exact h

theorem print_spliced_chain :
    let zero : Condition :=
      .ofComparison { left := [.ofText "n"], comparator := .equal, right := [.ofText "0"] }
    let chain : List Fragment :=
      [ifThen (some zero) [.ofText "return"], elseIf none [.ofText "wait()"], otherwise [.ofText "go()"]]
    let w : Writer := { text := "// chain\n", level := 1 }
    print chain.flatten w = { printEach chain w with text := w.text ++ " ".intercalate (addedByEach chain w) } := by
  intro zero chain w
  have hchain : ∀ f ∈ chain, IsControlFlow f := by
    intro f h
    simp only [chain, List.mem_cons, List.not_mem_nil, or_false] at h
    rcases h with rfl | rfl | rfl
    · exact .inl ⟨.ifThen _ _, rfl⟩
    · exact .inl ⟨.elseIf _ _, rfl⟩
    · exact .inl ⟨.otherwise _, rfl⟩
  exact (print_spliced.2.1 chain hchain w).2

end Fragment

end SwiftSource
