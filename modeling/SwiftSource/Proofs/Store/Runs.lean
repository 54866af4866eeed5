import SwiftSource.Proofs.Store.Saving
import Mathlib.Control.Monad.Basic

/-! Runs of saves. What is at a place in the end is told by the writes to it alone: the last one that replaces, or what
was there in the beginning, or the first one. Two things can come between: a place on the way to another one may have
become a directory before it is written to, and what a path finds missing that goes up again from a missing directory
is replaced although it was to be kept. -/

namespace SwiftSource.Store

structure Write where
  path : String
  rule : Overwrite
  text : String

def Write.node (w : Write) : Node := .file (.text w.text)

variable {s t next : Store} {l : Location} {w : Write} {writes rest : List Write} {result : WriteResult}
  {results : List WriteResult}

def saveAll (s : Store) : List Write → Except Failure (List WriteResult × Store)
  | [] => .ok ([], s)
  | w :: rest => do
    let (result, next) ← s.save w.path w.rule w.text
    let (results, final) ← next.saveAll rest
    return (result :: results, final)

def nodesFor (t : Store) (rule : Overwrite) (l : Location) (writes : List Write) : List Node :=
  (writes.filter fun w => w.rule = rule ∧ t.locate w.path = .ok l).map Write.node

/-- The last write that replaces counts most, then what is there in the beginning, then the first write. -/
def expected (s t : Store) (writes : List Write) (l : Location) : Option Node :=
  (nodesFor t .always l writes).getLast?.or ((s.get? l).or (nodesFor t .ifMissing l writes).head?)

/-- The place became a directory on the way to a write, before any write to it. -/
def Overtaken (t : Store) (writes : List Write) (l : Location) : Prop :=
  ∃ before w after, writes = before ++ w :: after ∧ (∀ v ∈ before ++ [w], t.locate v.path ≠ .ok l) ∧
    t.Passes (origin t.workingDirectory w.path) (Path.steps w.path) l

/-- A write that was to keep what is at its place did not find it, for its path led up again from a directory that was
missing. -/
structure Detours (s : Store) (w : Write) (l : Location) : Prop where
  rule : w.rule = .ifMissing
  up : ".." ∈ Path.steps w.path
  missing : s.contains w.path = false
  there : s.get? l ≠ none

/-- The write missed what was at its place, and no later one replaces what it put there. -/
def Detoured (s t : Store) (writes : List Write) (w : Write) (l : Location) : Prop :=
  ∃ before after done mid, writes = before ++ w :: after ∧ s.saveAll before = .ok (done, mid) ∧ Detours mid w l ∧
    t.locate w.path = .ok l ∧ nodesFor t .always l after = []

section Histories

lemma Overtaken.cons (hw : t.locate w.path ≠ .ok l) (h : Overtaken t writes l) : Overtaken t (w :: writes) l := by
  obtain ⟨before, v, after, rfl, hbefore, hpass⟩ := h
  exact ⟨w :: before, v, after, rfl, List.forall_mem_cons.mpr ⟨hw, hbefore⟩, hpass⟩

lemma Detoured.cons {v : Write} (hsave : s.save w.path w.rule w.text = .ok (result, next))
    (h : Detoured next t rest v l) : Detoured s t (w :: rest) v l := by
  obtain ⟨before, after, done, mid, rfl, hdone, hv⟩ := h
  exact ⟨w :: before, after, result :: done, mid, rfl, bind_eq_ok.mpr ⟨_, hsave, bind_eq_ok.mpr ⟨_, hdone, rfl⟩⟩, hv⟩

end Histories

end SwiftSource.Store
