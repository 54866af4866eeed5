import SwiftSource.Proofs.Script.Changes

/-! The level at which a fragment ends. Since no change of level leads above the root, a surplus of closing changes
is forgotten, and what remains is the greatest of what the changes make up after some point. -/

namespace SwiftSource

namespace Steps

def floored (start : Nat) (l : List Int) : Nat := l.foldl (fun (level : Nat) d => (level + d : Int).toNat) start

/-- The greatest of the start with all steps and, for every step, of what all steps make up beyond those so far. -/
def settled (start : Nat) (l : List Int) : Int := (l.inits.tail.map fun p => l.sum - p.sum).foldr max (start + l.sum)

def FlooredWithin (limit start : Nat) (l : List Int) : Prop := ∀ p, p <+: l → floored start p ≤ limit

instance (limit start : Nat) (l : List Int) : Decidable (FlooredWithin limit start l) :=
  decidable_of_iff (∀ p ∈ l.inits, floored start p ≤ limit) (by simp only [List.mem_inits, FlooredWithin])

lemma floored_cons (start : Nat) (d : Int) (l : List Int) :
    floored start (d :: l) = floored (start + d).toNat l := rfl

lemma floored_append (start : Nat) (l m : List Int) : floored start (l ++ m) = floored (floored start l) m :=
  List.foldl_append

lemma settled_cons (start : Nat) (d : Int) (l : List Int) :
    settled start (d :: l) = settled (start + d).toNat l := by
  have hstart : ((start + d).toNat : Int) + l.sum = max (start + (d + l.sum)) l.sum := by omega
  have hfirst : l.inits = [] :: l.inits.tail := by cases l <;> simp
  have htail : (d :: l).inits.tail = [d] :: l.inits.tail.map (d :: ·) := by
    rw [List.inits_cons, List.tail_cons, hfirst, List.map_cons, List.tail_cons]
  simp only [settled, hstart, htail, List.map_cons, List.map_map, List.foldr_cons, Function.comp_def, List.sum_cons,
    List.foldr_assoc, Int.add_sub_add_left]
  rw [List.sum_nil, Int.sub_zero, Int.max_comm]

theorem floored_eq_settled (start : Nat) (l : List Int) : (floored start l : Int) = settled start l := by
  induction l generalizing start with
  | nil => simp [floored, settled]
  | cons d rest ih => rw [floored_cons, settled_cons, ih]

lemma floored_mono {start next : Nat} (h : start ≤ next) (l : List Int) : floored start l ≤ floored next l := by
  induction l generalizing start next with
  | nil => exact h
  | cons d rest ih =>
    rw [floored_cons, floored_cons]
    apply ih
    omega

lemma floored_eq {start : Nat} {l : List Int} (h : ∀ p, p <+: l → 0 ≤ start + p.sum) :
    (floored start l : Int) = start + l.sum := by
  induction l generalizing start with
  | nil => simp [floored]
  | cons d rest ih =>
    obtain ⟨-, hrest⟩ := forall_prefix_cons.mp h
    simp only [List.sum_cons] at hrest ⊢
    have hlevel : ((start + d).toNat : Int) = start + d := by
      have hd := hrest [] List.nil_prefix
      rw [List.sum_nil] at hd
      omega
    rw [floored_cons, ih, hlevel, Int.add_assoc]
    intro p hp
    rw [hlevel, Int.add_assoc]
    exact hrest p hp

lemma NeverDrops.floored_eq {l : List Int} (h : NeverDrops l) (start : Nat) :
    (floored start l : Int) = start + l.sum := by
  apply Steps.floored_eq
  intro p hp
  have hp' := h p hp
  omega

/-- Two starts side by side lead to one place as soon as a step from the lower one stops at zero. -/
lemma nonneg_of_floored_ne (start : Nat) {l : List Int} (h : floored (start + 1) l ≠ floored start l) :
    ∀ p, p <+: l → 0 ≤ start + p.sum := by
  induction l generalizing start with
  | nil =>
    intro p hp
    simp [List.prefix_nil.mp hp]
  | cons d rest ih =>
    rw [floored_cons, floored_cons] at h
    by_cases hd : (start + d : Int) < 0
    · have hzero : ((start + 1 : Nat) + d).toNat = (start + d).toNat := by omega
      exact absurd (congrArg (floored · rest) hzero) h
    · have hsucc : ((start + 1 : Nat) + d).toNat = (start + d).toNat + 1 := by omega
      rw [hsucc] at h
      refine forall_prefix_cons.mpr ⟨by simp, ?_⟩
      intro p hp
      have hp' := ih _ h p hp
      rw [List.sum_cons]
      omega

lemma FlooredWithin.right {limit start : Nat} {l m : List Int} (h : FlooredWithin limit start (l ++ m)) :
    FlooredWithin limit (floored start l) m := by
  intro p hp
  rw [← floored_append]
  exact h (l ++ p) ((List.prefix_append_right_inj l).mpr hp)

lemma FlooredWithin.mono {limit start next : Nat} {l : List Int} (h : FlooredWithin limit next l)
    (hs : start ≤ next) : FlooredWithin limit start l :=
  fun p hp => (floored_mono hs p).trans (h p hp)

theorem floored_eq_self_iff {limit : Nat} {l : List Int} (h : FlooredWithin limit 1 l) :
    (∀ start, FlooredWithin limit start l → floored start l = start) ↔ Balanced l := by
  constructor
  · intro hself
    have hzero : floored 0 l = 0 := hself 0 (h.mono (Nat.zero_le 1))
    have hone : floored 1 l = 1 := hself 1 h
    have hdrop : NeverDrops l := by
      intro p hp
      have hp' := nonneg_of_floored_ne 0 (by rw [hzero, hone]; exact Nat.one_ne_zero) p hp
      omega
    have hsum := hdrop.floored_eq 0
    exact ⟨hdrop, by omega⟩
  · intro hb start _
    have hlevel := hb.neverDrops.floored_eq start
    have hsum := hb.sum_eq
    omega

end Steps

open Steps

lemma Stroke.levelAfter_eq_floored {level : Nat} {x : Stroke} (h : floored level x.changes ≤ Writer.deepest) :
    x.levelAfter level = floored level x.changes := by
  cases x with
  | text s => rfl
  | indentation more => rfl
  | deeper => exact Nat.min_eq_left h
  | higher =>
    change level - 1 = (level + -1 : Int).toNat
    omega

theorem Script.levelAfter_eq_floored {level : Nat} {s : Script}
    (h : FlooredWithin Writer.deepest level (changes s)) : levelAfter level s = floored level (changes s) := by
  induction s generalizing level with
  | nil => rfl
  | cons x rest ih =>
    rw [changes_cons] at h ⊢
    have hx := Stroke.levelAfter_eq_floored (h x.changes (List.prefix_append _ _))
    have hrest := h.right
    rw [← hx] at hrest
    rw [floored_append, ← hx]
    exact ih hrest

namespace Fragment

def HasRoom (f : Fragment) (level : Nat) : Prop := FlooredWithin Writer.deepest level (changes f)

instance (f : Fragment) (level : Nat) : Decidable (f.HasRoom level) :=
  inferInstanceAs (Decidable (FlooredWithin _ _ _))

variable {f : Fragment} {w : Writer} {p : Script}

lemma prefix_changes {order : List Modifier} (hp : p <+: Script.ofFragment order f true) : p.changes <+: changes f := by
  rw [← Script.changes_ofFragment order f true]
  exact hp.flatMap Stroke.changes

lemma level_run_partway (h : f.HasRoom w.level) (hp : p <+: Script.ofFragment w.modifierOrder f true) :
    (w.run p).level = floored w.level p.changes := by
  rw [Writer.run_eq]
  exact Script.levelAfter_eq_floored fun q hq => h q (hq.trans (prefix_changes hp))

lemma level_print_eq (h : f.HasRoom w.level) : (f.print w).level = floored w.level (changes f) := by
  rw [print, printFrom_eq_run, level_run_partway h (List.prefix_refl _), Script.changes_ofFragment]

lemma level_pos_of_balanced (h : f.HasRoom w.level) (hb : Balanced (changes f))
    (hp : p ++ [.higher] <+: Script.ofFragment w.modifierOrder f true) : 0 < (w.run p).level := by
  have hbefore := (List.prefix_append p [Stroke.higher]).trans hp
  have hdrop : NeverDrops p.changes := fun q hq => hb.neverDrops q (hq.trans (prefix_changes hbefore))
  have hlevel := hdrop.floored_eq w.level
  have hnext := hb.neverDrops _ (prefix_changes hp)
  rw [Script.changes_append, List.sum_append_int, show Script.changes [Stroke.higher] = [-1] from rfl,
    List.sum_singleton] at hnext
  rw [level_run_partway h hbefore]
  omega

/-- Whether a fragment keeps every level shows at the two lowest ones, so the equivalence asks for room there. -/
theorem level_print (f : Fragment) :
    (∀ w : Writer, f.HasRoom w.level → ((f.print w).level : Int) = settled w.level (changes f) ∧
      ((f.print w.pushIndentation).level : Int) = settled w.level (changes f)) ∧
    (f.HasRoom 1 → ((∀ w : Writer, f.HasRoom w.level → (f.print w).level = w.level) ↔
      (changes f).sum = 0 ∧ ∀ p, p <+: changes f → 0 ≤ p.sum)) ∧
    (Balanced (changes f) → ∀ w : Writer, f.HasRoom w.level → ∀ p : Script,
      p ++ [.higher] <+: Script.ofFragment w.modifierOrder f true → 0 < (w.run p).level) := by
  refine ⟨fun w h => ?_, fun hroom => ?_, fun hb w h p hp => level_pos_of_balanced h hb hp⟩
  · rw [level_print_eq h, level_print_eq (w := w.pushIndentation) h]
    exact ⟨floored_eq_settled w.level _, floored_eq_settled w.level _⟩
  · have hself := floored_eq_self_iff hroom
    constructor
    · intro hprint
      have hb := hself.mp fun start h => (level_print_eq (w := { level := start }) h).symm.trans (hprint _ h)
      exact ⟨hb.sum_eq, hb.neverDrops⟩
    · rintro ⟨hsum, hdrop⟩ w h
      rw [level_print_eq h, hself.mpr ⟨hdrop, hsum⟩ w.level h]

theorem level_print_surplus :
    let surplus : Fragment := [.closeBrace, .indent, .inline (.fragment [.indent, .unindent])]
    let empty : Fragment := [.openBrace, .closeBrace]
    (surplus.print {}).level = settled 0 [-1, 1, 1, -1] ∧ settled 0 [-1, 1, 1, -1] = 1 ∧
      (∀ w : Writer, empty.HasRoom w.level → (empty.print w).level = w.level) ∧
      0 < (Writer.run {} [.text " \x7b", .deeper]).level := by
  intro surplus empty
  have hempty : Balanced (changes empty) := by decide
  refine ⟨((level_print surplus).1 {} (by decide)).1, by decide, ?_, ?_⟩
  · exact ((level_print empty).2.1 (by decide)).mpr ⟨hempty.sum_eq, hempty.neverDrops⟩
  · exact (level_print empty).2.2 hempty {} (by decide) _ ⟨_, rfl⟩

end Fragment

end SwiftSource
