import SwiftSource.Text.Casing
import Mathlib.Data.List.Basic
import Mathlib.Data.Nat.ModEq

/-! Upper and lower case undo each other. What holds of a table of case mappings is checked on its runs as a whole, and
a character takes it from the run that it stands in. -/

namespace SwiftSource.Text

namespace CaseRun

variable {a b r : CaseRun} {n m : Nat}

lemma image?_eq_some :
    r.image? n = some m ↔
      (r.first ≤ n ∧ n ≤ r.last ∧ (n - r.first) % r.step = 0) ∧ r.target + (n - r.first) = m := by
  rw [image?]
  split <;> simp_all

lemma dvd_of_image? (h : (Nat.beq a.first a.last || Nat.beq (a.step % b.step) 0) = true)
    (hn : a.image? n = some m) : b.step ∣ n - a.first := by
  obtain ⟨⟨hfirst, hlast, hmod⟩, -⟩ := image?_eq_some.mp hn
  simp only [Bool.or_eq_true, Nat.beq_eq] at h
  rcases h with hsingle | hstep
  · rw [show n - a.first = 0 by omega]
    exact Nat.dvd_zero _
  · exact Nat.dvd_trans (Nat.dvd_of_mod_eq_zero hstep) (Nat.dvd_of_mod_eq_zero hmod)

def leadsInto (a b : CaseRun) : Bool :=
  Nat.ble a.target b.last && Nat.ble b.first a.target && Nat.ble (a.target + (a.last - a.first)) b.last &&
    (Nat.beq a.first a.last || Nat.beq (a.step % b.step) 0) && Nat.beq ((a.target - b.first) % b.step) 0

def andThen (a b : CaseRun) : CaseRun := { a with target := b.target + (a.target - b.first) }

lemma image?_of_leadsInto (h : a.leadsInto b = true) (hn : a.image? n = some m) :
    b.image? m = (a.andThen b).image? n := by
  obtain ⟨hrange, rfl⟩ := image?_eq_some.mp hn
  simp only [leadsInto, Bool.and_eq_true, Nat.ble_eq, Nat.beq_eq] at h
  obtain ⟨⟨⟨⟨-, hfirst⟩, hlast⟩, hstep⟩, halign⟩ := h
  have hmod : (a.target + (n - a.first) - b.first) % b.step = 0 := by
    have hdvd : b.step ∣ n - a.first := dvd_of_image? hstep hn
    rw [Nat.sub_add_comm hfirst]
    exact Nat.mod_eq_zero_of_dvd (Nat.dvd_add (Nat.dvd_of_mod_eq_zero halign) hdvd)
  rw [image?_eq_some.mpr ⟨⟨by omega, by omega, hmod⟩, rfl⟩, eq_comm]
  refine image?_eq_some.mpr ⟨hrange, ?_⟩
  simp only [andThen]
  omega

def misses (a b : CaseRun) : Bool :=
  Nat.blt (a.target + (a.last - a.first)) b.first || Nat.blt b.last a.target ||
    (Nat.beq a.first a.last || Nat.beq (a.step % b.step) 0) && !Nat.beq (b.first % b.step) (a.target % b.step)

lemma image?_of_misses (h : a.misses b = true) (hn : a.image? n = some m) : b.image? m = none := by
  obtain ⟨⟨hfirst, hlast, -⟩, hm⟩ := image?_eq_some.mp hn
  rw [image?, if_neg]
  rintro ⟨hfirst', hlast', hmod⟩
  rw [misses, Bool.or_eq_true, Bool.or_eq_true, Bool.and_eq_true, Bool.not_eq_true', Nat.blt_eq, Nat.blt_eq] at h
  rcases h with (hbelow | habove) | ⟨hstep, hapart⟩
  · omega
  · omega
  · -- both runs stay in one residue class, and not in the same one
    obtain ⟨k, hk⟩ := dvd_of_image? hstep hn
    have hsame : b.first % b.step = m % b.step := (Nat.modEq_iff_dvd' hfirst').mpr (Nat.dvd_of_mod_eq_zero hmod)
    rw [← hm, hk, Nat.add_mul_mod_self_left, ← Nat.beq_eq, hapart] at hsame
    cases hsame

def front (r : CaseRun) : CaseRun := { r with last := r.first }

def behind (r : CaseRun) : CaseRun := { r with first := r.first + r.step, target := r.target + r.step }

lemma image?_split (h : r.image? n = some m) : r.front.image? n = some m ∨ r.behind.image? n = some m := by
  obtain ⟨⟨hfirst, hlast, hmod⟩, rfl⟩ := image?_eq_some.mp h
  by_cases hn : n = r.first
  · exact .inl (image?_eq_some.mpr ⟨⟨hfirst, Nat.le_of_eq hn, hmod⟩, rfl⟩)
  · obtain ⟨k, hk⟩ := Nat.dvd_of_mod_eq_zero hmod
    have hpos : k ≠ 0 := by
      rintro rfl
      omega
    obtain ⟨j, rfl⟩ := Nat.exists_eq_succ_of_ne_zero hpos
    rw [Nat.mul_succ] at hk
    refine .inr (image?_eq_some.mpr ⟨⟨?_, hlast, ?_⟩, ?_⟩) <;> simp only [behind]
    · omega
    · have hj : n - (r.first + r.step) = r.step * j := by omega
      rw [hj, Nat.mul_mod_right]
    · omega

end CaseRun

def ascend (n : Nat) : List CaseRun → Bool
  | [] => true
  | r :: rest => Nat.ble n r.first && Nat.ble r.first r.last && ascend (r.last + 1) rest

structure Unambiguous (expansions : List (Nat × List Nat)) (runs : List CaseRun) : Prop where
  ordered : ascend 0 runs = true
  apart : (runs.all fun r => expansions.all fun e =>
    Nat.blt r.last e.1 || Nat.blt e.1 r.first || !Nat.beq ((e.1 - r.first) % r.step) 0) = true

lemma unambiguous_upper : Unambiguous upperExpansions upperRuns where
  ordered := by decide +kernel
  apart := by decide +kernel

lemma unambiguous_lower : Unambiguous lowerExpansions lowerRuns where
  ordered := by decide +kernel
  apart := by decide +kernel

section Table

variable {expansions : List (Nat × List Nat)} {runs : List CaseRun} {r : CaseRun} {n m : Nat} {c : Char}

lemma first_le_of_ascend (h : ascend n runs = true) (hr : r ∈ runs) : n ≤ r.first := by
  induction runs generalizing n with
  | nil => cases hr
  | cons a rest ih =>
    simp only [ascend, Bool.and_eq_true, Nat.ble_eq] at h
    rcases List.mem_cons.mp hr with rfl | hr
    · exact h.1.1
    · have hlater := ih h.2 hr
      omega

lemma findSome?_of_ascend (h : ascend n runs = true) (hr : r ∈ runs) {k : Nat} (hk : r.image? k = some m) :
    runs.findSome? (fun r => r.image? k) = some m := by
  induction runs generalizing n with
  | nil => cases hr
  | cons a rest ih =>
    simp only [ascend, Bool.and_eq_true, Nat.ble_eq] at h
    rcases List.mem_cons.mp hr with rfl | hr
    · rw [List.findSome?_cons, hk]
    · have hlater := first_le_of_ascend h.2 hr
      have hnone : a.image? k = none := by
        obtain ⟨⟨hfirst, -⟩, -⟩ := CaseRun.image?_eq_some.mp hk
        rw [CaseRun.image?, if_neg]
        omega
      rw [List.findSome?_cons, hnone]
      exact ih h.2 hr

lemma lookup_of_run (h : Unambiguous expansions runs) (hr : r ∈ runs) {k : Nat} (hk : r.image? k = some m) :
    expansions.lookup k = none := by
  refine List.lookup_eq_none_iff.mpr fun e he => ?_
  have hapart := List.all_eq_true.mp (List.all_eq_true.mp h.apart r hr) e he
  obtain ⟨⟨hfirst, hlast, hmod⟩, -⟩ := CaseRun.image?_eq_some.mp hk
  simp only [Bool.or_eq_true, Bool.not_eq_true', Nat.blt_eq, ← Bool.not_eq_true, Nat.beq_eq] at hapart
  rw [bne_iff_ne]
  rintro rfl
  omega

lemma mapCase_of_run (h : Unambiguous expansions runs) (hr : r ∈ runs) (hc : r.image? c.toNat = some m) :
    mapCase expansions runs c = [Char.ofNat m] := by
  rw [mapCase, lookup_of_run h hr hc, findSome?_of_ascend h.ordered hr hc]
  rfl

lemma mapCase_cases (expansions : List (Nat × List Nat)) (runs : List CaseRun) (c : Char) :
    (∃ e ∈ expansions, e.1 = c.toNat ∧ mapCase expansions runs c = e.2.map Char.ofNat) ∨
      (∃ r ∈ runs, ∃ m, r.image? c.toNat = some m ∧ mapCase expansions runs c = [Char.ofNat m]) ∨
      (expansions.lookup c.toNat = none ∧ mapCase expansions runs c = [c]) := by
  rw [mapCase]
  cases hlookup : expansions.lookup c.toNat with
  | some image =>
    obtain ⟨before, after, rfl, -⟩ := List.lookup_eq_some_iff.mp hlookup
    exact .inl ⟨(c.toNat, image), by simp, rfl, rfl⟩
  | none =>
    cases hfind : runs.findSome? fun r => r.image? c.toNat with
    | some m =>
      obtain ⟨r, hr, hm⟩ := List.exists_of_findSome?_eq_some hfind
      exact .inr (.inl ⟨r, hr, m, hm, rfl⟩)
    | none => exact .inr (.inr ⟨rfl, rfl⟩)

end Table

lemma toNat_ofNat {n : Nat} (h : n.isValidChar) : (Char.ofNat n).toNat = n := by
  rw [Char.ofNat, dif_pos h]
  rfl

def CaseRun.isValid (r : CaseRun) : Bool :=
  Nat.blt (r.target + (r.last - r.first)) 0xD800 ||
    Nat.blt 0xDFFF r.target && Nat.blt (r.target + (r.last - r.first)) 0x110000

lemma valid_runs : ((upperRuns ++ lowerRuns).all CaseRun.isValid) = true := by decide +kernel

lemma toNat_ofNat_of_run {r : CaseRun} {n m : Nat} (hr : r ∈ upperRuns ++ lowerRuns) (h : r.image? n = some m) :
    (Char.ofNat m).toNat = m := by
  have hvalid := List.all_eq_true.mp valid_runs r hr
  obtain ⟨⟨hfirst, hlast, -⟩, rfl⟩ := CaseRun.image?_eq_some.mp h
  simp only [CaseRun.isValid, Bool.or_eq_true, Bool.and_eq_true, Nat.blt_eq] at hvalid
  apply toNat_ofNat
  simp only [Nat.isValidChar]
  omega

def CaseRun.returns (l : CaseRun) : Bool :=
  upperRuns.any fun u => l.leadsInto u && lowerRuns.any fun v =>
    (l.andThen u).leadsInto v && Nat.beq ((l.andThen u).andThen v).target l.target

lemma upper_lower_of_returns {l : CaseRun} {n m : Nat} (hl : l.returns = true) (h : l.image? n = some m) :
    ∃ c, upper (Char.ofNat m) = [c] ∧ lower c = [Char.ofNat m] := by
  obtain ⟨u, hu, hlu⟩ := List.any_eq_true.mp hl
  obtain ⟨hlu, hback⟩ := Bool.and_eq_true_iff.mp hlu
  obtain ⟨v, hv, huv⟩ := List.any_eq_true.mp hback
  obtain ⟨huv, htarget⟩ := Bool.and_eq_true_iff.mp huv
  obtain ⟨hrange, -⟩ := CaseRun.image?_eq_some.mp h
  have hk : (l.andThen u).image? n = some ((l.andThen u).target + (n - l.first)) :=
    CaseRun.image?_eq_some.mpr ⟨hrange, rfl⟩
  have hup := (CaseRun.image?_of_leadsInto hlu h).trans hk
  have hround : (l.andThen u).andThen v = l := by
    rw [Nat.beq_eq] at htarget
    rw [CaseRun.andThen, CaseRun.andThen] at htarget ⊢
    simp only at htarget ⊢
    rw [htarget]
  have hdown := (CaseRun.image?_of_leadsInto huv hk).trans (hround ▸ h)
  refine ⟨Char.ofNat ((l.andThen u).target + (n - l.first)), mapCase_of_run unambiguous_upper hu ?_,
    mapCase_of_run unambiguous_lower hv ?_⟩
  · rwa [toNat_ofNat_of_run (List.mem_append_right _ hv) hdown]
  · rwa [toNat_ofNat_of_run (List.mem_append_left _ hu) hup]

/-- Where the runs of lower case begin that have no way back: `ẞ`, and letters whose upper case has an iota of its
own. -/
def oneWay : List Nat := [0x1E9E, 0x1F88, 0x1F98, 0x1FA8, 0x1FBC, 0x1FCC, 0x1FFC]

lemma returns_lowerRuns :
    (lowerRuns.all fun l => oneWay.contains l.first || l.returns || l.front.returns && l.behind.returns) = true := by
  decide +kernel

lemma expansions_oneWay :
    (lowerRuns.all fun l => !oneWay.contains l.first || Nat.beq l.first 0x1E9E && Nat.beq l.last 0x1E9E ||
      (List.range' l.first (l.last + 1 - l.first)).all fun n => (upperExpansions.lookup n).isSome) = true := by
  decide +kernel

lemma upperRuns_leadInto :
    (upperRuns.all fun u => lowerRuns.any fun l => u.leadsInto l && !oneWay.contains l.first) = true := by
  decide +kernel

def CaseRun.single (n : Nat) : CaseRun := { first := n, last := n, step := 1, target := n }

lemma upperExpansions_leadInto :
    (upperExpansions.all fun e => match e.2 with
      | [] => false
      | head :: _ => Nat.beq head 0x2BC || Nat.blt head 0xD800 && lowerRuns.any fun l =>
        (CaseRun.single head).leadsInto l && !oneWay.contains l.first) = true := by
  decide +kernel

def upperDomain : List CaseRun := upperRuns ++ upperExpansions.map fun e => CaseRun.single e.1

lemma upperRuns_miss : (upperRuns.all fun u => upperDomain.all u.misses) = true := by decide +kernel

lemma upperExpansions_miss :
    (upperExpansions.all fun e => match e.2 with
      | [] => false
      | head :: _ => Nat.blt head 0xD800 && upperDomain.all (CaseRun.single head).misses) = true := by
  decide +kernel

lemma CaseRun.image?_single (n : Nat) : (single n).image? n = some n := by simp [image?, single]

lemma upper_of_not_mem_domain {c : Char} (h : ∀ r ∈ upperDomain, r.image? c.toNat = none) : upper c = [c] := by
  rcases mapCase_cases upperExpansions upperRuns c with ⟨e, he, hkey, -⟩ | ⟨r, hr, m, hm, -⟩ | ⟨-, hself⟩
  · have hnone := h (.single e.1) (List.mem_append_right _ (List.mem_map_of_mem he))
    rw [← hkey, CaseRun.image?_single] at hnone
    cases hnone
  · rw [h r (List.mem_append_left _ hr)] at hm
    cases hm
  · exact hself

lemma upper_of_misses {r : CaseRun} {n m : Nat} (hvalid : (Char.ofNat m).toNat = m) (hm : r.image? n = some m)
    (h : upperDomain.all r.misses = true) : upper (Char.ofNat m) = [Char.ofNat m] := by
  refine upper_of_not_mem_domain fun u hu => ?_
  rw [hvalid]
  exact CaseRun.image?_of_misses (List.all_eq_true.mp h u hu) hm

lemma upper_of_upper {c d : Char} {rest : List Char} (h : upper c = d :: rest) : upper d = [d] := by
  rcases mapCase_cases upperExpansions upperRuns c with ⟨e, he, -, himage⟩ | ⟨r, hr, m, hm, himage⟩ | ⟨-, hself⟩
  · have hmiss := List.all_eq_true.mp upperExpansions_miss e he
    have hupper := himage.symm.trans h
    cases hhead : e.2 with
    | nil => simp [hhead] at hmiss
    | cons head others =>
      simp only [hhead, Bool.and_eq_true, Nat.blt_eq] at hmiss
      rw [hhead] at hupper
      obtain ⟨rfl, -⟩ := List.cons.inj hupper
      refine upper_of_misses ?_ (CaseRun.image?_single head) hmiss.2
      exact toNat_ofNat (.inl hmiss.1)
  · obtain ⟨rfl, -⟩ := List.cons.inj (himage.symm.trans h)
    exact upper_of_misses (toNat_ofNat_of_run (List.mem_append_left _ hr) hm) hm
      (List.all_eq_true.mp upperRuns_miss r hr)
  · obtain ⟨rfl, -⟩ := List.cons.inj (hself.symm.trans h)
    exact hself

/-- The character begins a name that does not change any more: capitalized and in lower case again it is the same. -/
def Settled (c : Char) : Prop := ∀ rest, uncapitalize (capitalize (lower c ++ rest)) = lower c ++ rest

section Settled

variable {c d : Char}

lemma settled_of_lower {l : CaseRun} {m : Nat} (hl : l ∈ lowerRuns) (htwoWay : oneWay.contains l.first = false)
    (h : l.image? c.toNat = some m) : Settled c := by
  have hreturns := List.all_eq_true.mp returns_lowerRuns l hl
  simp only [htwoWay, Bool.false_or, Bool.or_eq_true, Bool.and_eq_true] at hreturns
  obtain ⟨d, hup, hdown⟩ : ∃ d, upper (Char.ofNat m) = [d] ∧ lower d = [Char.ofNat m] := by
    rcases hreturns with hall | ⟨hfront, hbehind⟩
    · exact upper_lower_of_returns hall h
    · rcases CaseRun.image?_split h with hin | hin
      · exact upper_lower_of_returns hfront hin
      · exact upper_lower_of_returns hbehind hin
  intro rest
  rw [lower, mapCase_of_run unambiguous_lower hl h]
  simp only [List.cons_append, List.nil_append, capitalize, hup, uncapitalize, hdown]

lemma settled_of_leadsInto {u : CaseRun} {n m : Nat} (hvalid : (Char.ofNat m).toNat = m) (hm : u.image? n = some m)
    (h : (lowerRuns.any fun l => u.leadsInto l && !oneWay.contains l.first) = true) : Settled (Char.ofNat m) := by
  obtain ⟨l, hl, hul⟩ := List.any_eq_true.mp h
  obtain ⟨hlead, htwoWay⟩ := Bool.and_eq_true_iff.mp hul
  obtain ⟨hrange, -⟩ := CaseRun.image?_eq_some.mp hm
  have himage := (CaseRun.image?_of_leadsInto hlead hm).trans (CaseRun.image?_eq_some.mpr ⟨hrange, rfl⟩)
  exact settled_of_lower hl (by simpa using htwoWay) (by rwa [hvalid])

lemma settled_of_uncased (hup : upper c = [c]) (hdown : lower c = [c]) : Settled c := by
  intro rest
  simp [hdown, hup, capitalize, uncapitalize]

lemma settled_dotted : Settled 'İ' := by
  have hdown : lower 'İ' = ['i', '\u0307'] := by decide +kernel
  have hup : upper 'i' = ['I'] := by decide +kernel
  have hback : lower 'I' = ['i'] := by decide +kernel
  intro rest
  simp [hdown, hup, hback, capitalize, uncapitalize]

lemma settled_of_expansion {e : Nat × List Nat} (he : e ∈ upperExpansions) :
    ∃ head rest, e.2 = head :: rest ∧ Settled (Char.ofNat head) := by
  have hlead := List.all_eq_true.mp upperExpansions_leadInto e he
  cases himage : e.2 with
  | nil => simp [himage] at hlead
  | cons head rest =>
    refine ⟨head, rest, rfl, ?_⟩
    simp only [himage, Bool.or_eq_true, Bool.and_eq_true, Nat.beq_eq, Nat.blt_eq] at hlead
    rcases hlead with rfl | ⟨hvalid, hlead⟩
    · exact settled_of_uncased (by decide +kernel) (by decide +kernel)
    · refine settled_of_leadsInto ?_ (u := CaseRun.single head) (n := head) ?_ hlead
      · exact toNat_ofNat (.inl hvalid)
      · exact CaseRun.image?_single head

theorem settled_or_sharp {rest : List Char} (h : upper c = d :: rest) : Settled d ∨ d = 'ẞ' := by
  rcases mapCase_cases upperExpansions upperRuns c with ⟨e, he, -, himage⟩ | ⟨u, hu, m, hm, himage⟩ | ⟨hkey, hself⟩
  · obtain ⟨head, others, hhead, hsettled⟩ := settled_of_expansion he
    rw [hhead] at himage
    obtain ⟨rfl, -⟩ := List.cons.inj (himage.symm.trans h)
    exact .inl hsettled
  · obtain ⟨rfl, -⟩ := List.cons.inj (himage.symm.trans h)
    exact .inl (settled_of_leadsInto (toNat_ofNat_of_run (List.mem_append_left _ hu) hm) hm
      (List.all_eq_true.mp upperRuns_leadInto u hu))
  · obtain ⟨rfl, -⟩ := List.cons.inj (hself.symm.trans h)
    rcases mapCase_cases lowerExpansions lowerRuns c with ⟨e, he, hdotted, -⟩ | ⟨l, hl, m, hm, -⟩ | ⟨-, hdown⟩
    · obtain rfl := List.mem_singleton.mp he
      obtain rfl : c = 'İ' := Char.toNat_inj.mp hdotted.symm
      exact .inl settled_dotted
    · cases htwoWay : oneWay.contains l.first with
      | false => exact .inl (settled_of_lower hl htwoWay hm)
      | true =>
        have hone := List.all_eq_true.mp expansions_oneWay l hl
        obtain ⟨⟨hfirst, hlast, -⟩, -⟩ := CaseRun.image?_eq_some.mp hm
        simp only [htwoWay, Bool.not_true, Bool.false_or, Bool.or_eq_true, Bool.and_eq_true, Nat.beq_eq] at hone
        rcases hone with ⟨hsharp, hsharp'⟩ | hexpands
        · right
          exact Char.toNat_inj.mp (by change c.toNat = 0x1E9E; omega)
        · have hsome := List.all_eq_true.mp hexpands c.toNat (List.mem_range'_1.mpr (by omega))
          simp [hkey] at hsome
    · exact .inl (settled_of_uncased hself hdown)

end Settled

end SwiftSource.Text
