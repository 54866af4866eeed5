import SwiftSource.Proofs.Store.Places

/-! What one write does to a store. The directories on the way are made where they are missing, the place of the path
gets a file, and no other place changes. Unless the path goes up again, what it finds at its place once the directories
are made was found before they were. -/

namespace SwiftSource.Store

variable {s t u : Store} {start l m : Location} {name path : String} {all before first steps : List String}

def Passes (s : Store) (start : Location) (steps : List String) (l : Location) : Prop :=
  ∃ first, first <+: steps ∧ s.resolveFrom start first = .ok l

lemma Persists.passes (h : s.Persists t) : s.Passes start steps l → t.Passes start steps l
  | ⟨first, hfirst, hl⟩ => ⟨first, hfirst, resolve_eq_ok.mpr (h.leads (resolve_eq_ok.mp hl))⟩

section Put

variable {n : Node} (hget : s.get? (l ++ [name]) ≠ some .directory)

lemma get?_put_append (n : Node) (m : Location) :
    (s.put (l ++ [name]) n).get? m = if m = l ++ [name] then some n else s.get? m :=
  get?_put (by simp) n m

include hget

lemma closed_put (hs : s.Closed) (hl : s.get? l = some .directory) (n : Node) : (s.put (l ++ [name]) n).Closed := by
  intro k x hx
  have hk : s.get? k = some .directory := by
    by_cases hkx : k ++ [x] = l ++ [name]
    · obtain ⟨rfl, -⟩ := List.append_inj' hkx rfl
      exact hl
    · rw [get?_put_append, if_neg hkx] at hx
      exact hs k x hx
  have hne : k ≠ l ++ [name] := fun heq => hget (heq ▸ hk)
  rw [get?_put_append, if_neg hne, hk]

lemma persists_put (hlink : ∀ target, s.get? (l ++ [name]) ≠ some (.link target)) (hn : ∀ target, n ≠ .link target) :
    s.Persists (s.put (l ++ [name]) n) where
  workingDirectory := rfl
  directory k hk := by
    have hne : k ≠ l ++ [name] := fun heq => hget (heq ▸ hk)
    rw [get?_put_append, if_neg hne, hk]
  link k target := by
    rw [get?_put_append]
    split
    next heq =>
      subst heq
      exact iff_of_false (fun h => hn target (Option.some.inj h)) (hlink target)
    next => rfl

end Put

structure GrownAlong (start : Location) (steps : List String) (s t : Store) : Prop where
  closed : t.Closed
  workingDirectory : t.workingDirectory = s.workingDirectory
  change : ∀ l, t.get? l = s.get? l ∨ s.get? l = none ∧ t.get? l = some .directory ∧ t.Passes start steps l
  retrace : ".." ∉ steps → ∀ first l, first <+: steps → t.Leads linkLimit start first l →
    s.Leads linkLimit start first l ∨ s.get? l = none

lemma makeDirectory_eq_ok (hs : s.Closed) (h : s.makeDirectory start steps = .ok t) :
    t = s ∨ ∃ first name above, first ++ [name] <+: steps ∧ s.Leads linkLimit start first above ∧
      s.step above name = .ok (above ++ [name]) ∧ s.get? (above ++ [name]) = none ∧
      t = s.put (above ++ [name]) .directory := by
  obtain ⟨-, -, h⟩ := bind_eq_ok.mp h
  obtain ⟨above, habove, h⟩ := bind_eq_ok.mp h
  obtain ⟨l, hl, h⟩ := bind_eq_ok.mp h
  split at h
  next hnone =>
    cases h
    obtain ⟨hdir, -, rfl⟩ := step_eq_ok.mp hl
    have hempty : s.get? (descend above ((Path.withoutSlashes steps).getLast?.getD "")) ≠ some .directory := by
      simp [hnone]
    have hdown := descend_eq_append hs hdir hempty
    rw [hdown] at hl hnone ⊢
    cases hlast : (Path.withoutSlashes steps).getLast? with
    | none =>
      rw [hlast] at hdown
      -- without a last step the way stays where it is
      exact absurd hdown (by simp [descend, Path.stays])
    | some name =>
      rw [hlast] at hl hnone
      have hbare : (Path.withoutSlashes steps).dropLast ++ [name] <+: steps := by
        rw [List.dropLast_append_getLast? name hlast, Path.withoutSlashes, ← List.reverse_suffix, List.reverse_reverse]
        exact List.dropWhile_suffix _
      exact .inr ⟨_, name, above, hbare, resolve_eq_ok.mp habove, hl, hnone, rfl⟩
  next =>
    split at h <;> cases h
    exact .inl rfl

section Made

variable {above : Location} (hleads : s.Leads linkLimit start first above)
  (hstep : s.step above name = .ok (above ++ [name])) (hnone : s.get? (above ++ [name]) = none)

include hnone in
lemma persists_made : s.Persists (s.put (above ++ [name]) .directory) :=
  persists_put (by simp [hnone]) (by simp [hnone]) nofun

include hleads hstep hnone in
lemma leads_made :
    (s.put (above ++ [name]) .directory).Leads linkLimit start (first ++ [name]) (above ++ [name]) := by
  have hpersists := persists_made hnone
  refine (hpersists.leads hleads).snoc (hpersists.step hstep) fun target => ?_
  rw [get?_put_append, if_pos rfl]
  exact nofun

include hleads hnone in
lemma leads_of_made_short (hbefore : before <+: first)
    (hl : (s.put (above ++ [name]) .directory).Leads linkLimit start before l) : s.Leads linkLimit start before l := by
  obtain ⟨rest, rfl⟩ := hbefore
  obtain ⟨mid, hmid, -⟩ := hleads.split
  obtain rfl := hl.unique ((persists_made hnone).leads hmid)
  exact hmid

include hleads hstep hnone in
/-- What is below the new directory was empty, so there are no links and the way stays there. -/
lemma prefix_of_made_long (hs : s.Closed) {rest : List String} (hup : ".." ∉ rest)
    (hl : (s.put (above ++ [name]) .directory).Leads linkLimit start (first ++ [name] ++ rest) l) :
    above ++ [name] <+: l := by
  obtain ⟨mid, hmid, hrest⟩ := hl.split
  obtain rfl := hmid.unique (leads_made hleads hstep hnone)
  refine hrest.prefix_of_down hup fun k target hk hlink => ?_
  have hold := ((persists_made hnone).link k target).mp hlink
  rw [hs.get?_below hk hnone] at hold
  cases hold

end Made

/-- One more directory: a way that leads through it goes on in what was empty, any other one is an old one. -/
lemma GrownAlong.makeDirectory (hs : s.Closed) (h : GrownAlong start all s u) (hsteps : steps <+: all)
    (hmake : u.makeDirectory start steps = .ok t) : GrownAlong start all s t := by
  obtain rfl | ⟨first, name, above, hfirst, hleads, hstep, hnone, rfl⟩ := makeDirectory_eq_ok h.closed hmake
  · exact h
  have hpersists := persists_made hnone
  have hempty : s.get? (above ++ [name]) = none := by
    rcases h.change (above ++ [name]) with heq | ⟨hbefore, -⟩
    · rw [← heq, hnone]
    · exact hbefore
  refine ⟨closed_put (by simp [hnone]) h.closed (step_eq_ok.mp hstep).1 _, h.workingDirectory, fun l => ?_,
    fun hup before l hbefore hl => ?_⟩
  · rw [get?_put_append]
    split
    next hl =>
      rw [hl]
      exact .inr ⟨hempty, rfl, _, hfirst.trans hsteps, resolve_eq_ok.mpr (leads_made hleads hstep hnone)⟩
    next =>
      exact (h.change l).imp_right fun ⟨hbefore, hafter, hpass⟩ => ⟨hbefore, hafter, hpersists.passes hpass⟩
  · by_cases hshort : before <+: first
    · exact h.retrace hup before l hbefore (leads_of_made_short hleads hnone hshort hl)
    · have hlong : first ++ [name] <+: before := by
        rcases List.prefix_or_prefix_of_prefix hbefore (hfirst.trans hsteps) with hle | hge
        · rcases List.prefix_concat_iff.mp hle with rfl | hle
          · exact List.prefix_rfl
          · exact absurd hle hshort
        · exact hge
      obtain ⟨rest, rfl⟩ := hlong
      have hdown : ".." ∉ rest := fun hmem => hup (hbefore.subset (List.mem_append_right _ hmem))
      exact .inr (hs.get?_below (prefix_of_made_long hleads hstep hnone h.closed hdown hl) hempty)

lemma GrownAlong.makeDirectoryBelow (hs : s.Closed) (h : GrownAlong start all s u) (hsteps : steps <+: all)
    (hbefore : before.reverse <+: all) (hmake : u.makeDirectoryBelow start steps before = .ok t) :
    GrownAlong start all s t := by
  induction before generalizing u t steps with
  | nil => exact h.makeDirectory hs hsteps (mapError_eq_ok.mp hmake)
  | cons name before ih =>
    have hshorter : before.reverse <+: all := by
      rw [List.reverse_cons] at hbefore
      exact (List.prefix_append _ _).trans hbefore
    rw [Store.makeDirectoryBelow] at hmake
    split at hmake
    next => exact ih h hsteps hshorter hmake
    next =>
      split at hmake
      next =>
        obtain ⟨made, hmade, hrest⟩ := bind_eq_ok.mp hmake
        exact (ih h hbefore hshorter hmade).makeDirectory hs hsteps (mapError_eq_ok.mp hrest)
      next => exact h.makeDirectory hs hsteps (mapError_eq_ok.mp hmake)

end SwiftSource.Store
