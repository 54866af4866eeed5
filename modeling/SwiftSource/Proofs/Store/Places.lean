import SwiftSource.Proofs.Except
import SwiftSource.Store
import Mathlib.Data.List.Induction
import Mathlib.Data.List.Infix

/-! Where paths lead. The steps of a path lead from place to place and over links, of which only so many may be
followed; where they have led once they lead in every later store, as long as its directories and links stay. -/

namespace SwiftSource.Store

/-- From the first place the steps lead to the last one over so many links at most. -/
inductive Leads (s : Store) : (links : Nat) → Location → List String → Location → Prop
  | here {links : Nat} {l : Location} : Leads s links l [] l
  | step {links : Nat} {l next m : Location} {name : String} {rest : List String} (hnext : s.step l name = .ok next)
      (hplain : ∀ target, s.get? next ≠ some (.link target)) (hrest : Leads s links next rest m) :
      Leads s links l (name :: rest) m
  | follow {links : Nat} {l next m : Location} {name target : String} {rest : List String}
      (hnext : s.step l name = .ok next) (hlink : s.get? next = some (.link target))
      (hrest : Leads s links (origin l target) (Path.steps target ++ rest) m) : Leads s (links + 1) l (name :: rest) m

variable {s t : Store} {l m next : Location} {name path target : String} {first rest steps : List String}
  {links : Nat}

def Closed (s : Store) : Prop := ∀ l name, s.get? (l ++ [name]) ≠ none → s.get? l = some .directory

lemma get?_root : s.get? [] = some .directory := rfl

lemma Closed.directory_above (hs : s.Closed) (hlm : l <+: m) (hne : l ≠ m) (hm : s.get? m ≠ none) :
    s.get? l = some .directory := by
  obtain ⟨rest, rfl⟩ := hlm
  induction rest using List.reverseRecOn with
  | nil => simp at hne
  | append_singleton rest name ih =>
    rw [← List.append_assoc] at hm
    have hdir := hs _ _ hm
    by_cases hrest : rest = []
    · rwa [hrest, List.append_nil] at hdir
    · refine ih (fun h => hrest ?_) (by simp [hdir])
      simpa using h

lemma Closed.get?_below (hs : s.Closed) (hlm : l <+: m) (hl : s.get? l = none) : s.get? m = none := by
  by_contra hm
  have hne : l ≠ m := fun h => hm (h ▸ hl)
  rw [hs.directory_above hlm hne hm] at hl
  cases hl

lemma step_eq_ok :
    s.step l name = .ok next ↔ s.get? l = some .directory ∧ name.utf8ByteSize ≤ nameLimit ∧ descend l name = next := by
  rw [step]
  split
  next hl => by_cases hname : name.utf8ByteSize ≤ nameLimit <;> simp [hl, hname]
  next hother hl =>
    refine iff_of_false nofun ?_
    rintro ⟨hdir, -, -⟩
    exact hother (Option.some.inj (hl.symm.trans hdir))
  next hl => simp [hl]

lemma get?_origin (hl : s.get? l = some .directory) (path : String) : s.get? (origin l path) = some .directory := by
  rw [origin]
  split
  · rfl
  · exact hl

lemma descend_eq_append (hs : s.Closed) (hl : s.get? l = some .directory)
    (hnext : s.get? (descend l name) ≠ some .directory) : descend l name = l ++ [name] := by
  rw [descend] at hnext ⊢
  split
  next hstays => exact absurd hl (by simpa [hstays] using hnext)
  next hstays =>
    split
    next hup =>
      rw [if_neg hstays, if_pos hup] at hnext
      by_cases hroot : l = []
      · exact absurd get?_root (by simpa [hroot] using hnext)
      · -- what is above a directory is a directory
        refine absurd (hs l.dropLast (l.getLast hroot) ?_) hnext
        rw [List.dropLast_append_getLast, hl]
        exact Option.some_ne_none _
    next => rfl

lemma prefix_descend (h : name ≠ "..") : l <+: descend l name := by
  by_cases hstays : Path.stays name
  · simp [descend, hstays]
  · simp [descend, hstays, h]

lemma walk_eq_ok {jump : Location → List String → Except StoreError Location} :
    s.walk jump l (name :: rest) = .ok m ↔ ∃ next, s.step l name = .ok next ∧
      ((∃ target, s.get? next = some (.link target) ∧ jump (origin l target) (Path.steps target ++ rest) = .ok m) ∨
        (∀ target, s.get? next ≠ some (.link target)) ∧ s.walk jump next rest = .ok m) := by
  rw [walk, bind_eq_ok]
  refine exists_congr fun next => and_congr_right fun _ => ?_
  split
  next target hlink => simp [hlink]
  next hplain =>
    have hplain : ∀ target, s.get? next ≠ some (.link target) := hplain
    simp [hplain]

lemma resolve_eq_ok : s.resolve links l steps = .ok m ↔ s.Leads links l steps m := by
  constructor
  · intro h
    induction links generalizing l steps with
    | zero =>
      rw [resolve] at h
      induction steps generalizing l with
      | nil => cases h; exact .here
      | cons name rest ih =>
        obtain ⟨next, hnext, ⟨target, -, hjump⟩ | ⟨hplain, hrest⟩⟩ := walk_eq_ok.mp h
        · cases hjump
        · exact .step hnext hplain (ih hrest)
    | succ links ihlinks =>
      rw [resolve] at h
      induction steps generalizing l with
      | nil => cases h; exact .here
      | cons name rest ih =>
        obtain ⟨next, hnext, ⟨target, hlink, hjump⟩ | ⟨hplain, hrest⟩⟩ := walk_eq_ok.mp h
        · exact .follow hnext hlink (ihlinks hjump)
        · exact .step hnext hplain (ih hrest)
  · intro h
    induction h with
    | @here links l => cases links <;> rfl
    | @step links _ _ _ _ _ hnext hplain _ ih =>
      cases links <;> exact walk_eq_ok.mpr ⟨_, hnext, .inr ⟨hplain, ih⟩⟩
    | follow hnext hlink _ ih => exact walk_eq_ok.mpr ⟨_, hnext, .inl ⟨_, hlink, ih⟩⟩

namespace Leads

lemma more {links' : Nat} (h : s.Leads links l steps m) (hle : links ≤ links') : s.Leads links' l steps m := by
  induction h generalizing links' with
  | here => exact .here
  | step hnext hplain _ ih => exact .step hnext hplain (ih hle)
  | follow hnext hlink _ ih =>
    obtain ⟨links', rfl⟩ : ∃ k, links' = k + 1 := ⟨links' - 1, by omega⟩
    exact .follow hnext hlink (ih (by omega))

lemma unique {links' : Nat} {m' : Location} (h : s.Leads links l steps m) (h' : s.Leads links' l steps m') :
    m = m' := by
  induction h generalizing links' with
  | here => cases h'; rfl
  | step hnext hplain _ ih =>
    cases h' with
    | step hnext' _ hrest' =>
      cases hnext.symm.trans hnext'
      exact ih hrest'
    | follow hnext' hlink' _ =>
      cases hnext.symm.trans hnext'
      exact absurd hlink' (hplain _)
  | follow hnext hlink _ ih =>
    cases h' with
    | step hnext' hplain' _ =>
      cases hnext.symm.trans hnext'
      exact absurd hlink (hplain' _)
    | follow hnext' hlink' hrest' =>
      cases hnext.symm.trans hnext'
      cases hlink.symm.trans hlink'
      exact ih hrest'

lemma split (h : s.Leads links l (first ++ rest) m) :
    ∃ mid, s.Leads links l first mid ∧ s.Leads links mid rest m := by
  generalize hsteps : first ++ rest = steps at h
  induction h generalizing first with
  | here =>
    obtain ⟨rfl, rfl⟩ := List.append_eq_nil_iff.mp hsteps
    exact ⟨_, .here, .here⟩
  | step hnext hplain hrest ih =>
    cases first with
    | nil =>
      obtain rfl : rest = _ := hsteps
      exact ⟨_, .here, .step hnext hplain hrest⟩
    | cons name first =>
      obtain ⟨rfl, rfl⟩ := List.cons.inj hsteps
      obtain ⟨mid, hfirst, hmid⟩ := ih rfl
      exact ⟨mid, .step hnext hplain hfirst, hmid⟩
  | @follow links _ _ _ _ _ _ hnext hlink hrest ih =>
    cases first with
    | nil =>
      obtain rfl : rest = _ := hsteps
      exact ⟨_, .here, .follow hnext hlink hrest⟩
    | cons name first =>
      obtain ⟨rfl, rfl⟩ := List.cons.inj hsteps
      obtain ⟨mid, hfirst, hmid⟩ := ih (List.append_assoc _ _ _)
      exact ⟨mid, .follow hnext hlink hfirst, hmid.more (Nat.le_succ links)⟩

lemma snoc (h : s.Leads links l steps m) (hnext : s.step m name = .ok next)
    (hplain : ∀ target, s.get? next ≠ some (.link target)) : s.Leads links l (steps ++ [name]) next := by
  induction h with
  | here => exact .step hnext hplain .here
  | step hnext' hplain' _ ih => exact .step hnext' hplain' (ih hnext)
  | follow hnext' hlink _ ih =>
    have hrest := ih hnext
    rw [List.append_assoc] at hrest
    exact .follow hnext' hlink hrest

lemma prefix_of_down (h : s.Leads links l steps m) (hup : ".." ∉ steps)
    (hplain : ∀ k target, l <+: k → s.get? k ≠ some (.link target)) : l <+: m := by
  induction h with
  | here => exact List.prefix_rfl
  | @step _ l _ _ name _ hnext _ _ ih =>
    obtain ⟨-, -, rfl⟩ := step_eq_ok.mp hnext
    have hdown : l <+: descend l name := prefix_descend (List.ne_of_not_mem_cons hup).symm
    exact hdown.trans (ih (List.not_mem_of_not_mem_cons hup) fun k target hk => hplain k target (hdown.trans hk))
  | follow hnext hlink _ _ =>
    obtain ⟨-, -, rfl⟩ := step_eq_ok.mp hnext
    exact absurd hlink (hplain _ _ (prefix_descend (List.ne_of_not_mem_cons hup).symm))

lemma parent (hs : s.Closed) (h : s.Leads links l steps m) (hl : s.get? l = some .directory)
    (hm : s.get? m ≠ some .directory) : ∃ parent name, m = parent ++ [name] ∧ s.get? parent = some .directory := by
  induction h with
  | here => exact absurd hl hm
  | @step _ _ next _ _ _ hnext _ hrest ih =>
    by_cases hdir : s.get? next = some .directory
    · exact ih hdir hm
    · cases hrest with
      | here =>
        obtain ⟨-, -, rfl⟩ := step_eq_ok.mp hnext
        exact ⟨_, _, descend_eq_append hs hl hm, hl⟩
      | step hnext' _ _ | follow hnext' _ _ => exact absurd (step_eq_ok.mp hnext').1 hdir
  | follow hnext hlink _ ih => exact ih (get?_origin hl _) hm

end Leads

/-- Directories and links stay, and no link is made. -/
structure Persists (s t : Store) : Prop where
  workingDirectory : t.workingDirectory = s.workingDirectory
  directory : ∀ l, s.get? l = some .directory → t.get? l = some .directory
  link : ∀ l target, t.get? l = some (.link target) ↔ s.get? l = some (.link target)

namespace Persists

lemma trans {u : Store} (h : s.Persists t) (h' : t.Persists u) : s.Persists u where
  workingDirectory := h'.workingDirectory.trans h.workingDirectory
  directory l hl := h'.directory l (h.directory l hl)
  link l target := (h'.link l target).trans (h.link l target)

lemma step (h : s.Persists t) (hstep : s.step l name = .ok next) : t.step l name = .ok next := by
  obtain ⟨hl, hname, hnext⟩ := step_eq_ok.mp hstep
  exact step_eq_ok.mpr ⟨h.directory l hl, hname, hnext⟩

lemma leads (h : s.Persists t) (hleads : s.Leads links l steps m) : t.Leads links l steps m := by
  induction hleads with
  | here => exact .here
  | step hnext hplain _ ih => exact .step (h.step hnext) (fun target hlink => hplain target ((h.link _ _).mp hlink)) ih
  | follow hnext hlink _ ih => exact .follow (h.step hnext) ((h.link _ _).mpr hlink) ih

end Persists

lemma locate_eq_ok :
    s.locate path = .ok l ↔ checkSteps (Path.steps path) = .ok () ∧ path ≠ "" ∧
      s.Leads linkLimit (origin s.workingDirectory path) (Path.steps path) l := by
  rw [locate, bind_eq_ok, Unique.exists_iff, ← resolve_eq_ok]
  by_cases hpath : path = "" <;> simp [hpath, throw, throwThe, MonadExceptOf.throw, resolveFrom]

lemma Persists.locate (h : s.Persists t) (hl : s.locate path = .ok l) : t.locate path = .ok l := by
  obtain ⟨hcheck, hpath, hleads⟩ := locate_eq_ok.mp hl
  refine locate_eq_ok.mpr ⟨hcheck, hpath, ?_⟩
  rw [h.workingDirectory]
  exact h.leads hleads

end SwiftSource.Store
