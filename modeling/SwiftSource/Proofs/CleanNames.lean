import SwiftSource.Naming
import SwiftSource.Proofs.Text.Casing

/-! Names that have been cleaned. They hold no separator, and begin with a slash only where the raw name does. Cleaned
and escaped for a second time they stay as they are, unless they begin with `ß`. -/

namespace SwiftSource.Naming

open Text

def marks : List (Nat × Nat) := blankRanges ++ [(0x2D, 0x2F), (0x5B, 0x5B), (0x5D, 0x5D), (0x5F, 0x5F)]

def IsMark (c : Char) : Prop := isSeparator c = true ∨ c = '/'

lemma IsMark.exists_range {c : Char} (h : IsMark c) : ∃ p ∈ marks, p.1 ≤ c.toNat ∧ c.toNat ≤ p.2 := by
  simp only [IsMark, isSeparator, isBlank, Bool.or_eq_true, List.any_eq_true, Bool.and_eq_true, decide_eq_true_eq,
    List.contains_iff_mem, List.mem_cons, List.not_mem_nil, or_false] at h
  rcases h with (⟨p, hp, hc⟩ | (rfl | rfl | rfl | rfl | rfl)) | rfl
  · exact ⟨p, List.mem_append_left _ hp, hc⟩
  all_goals decide

structure Unmarked (expansions : List (Nat × List Nat)) (runs : List CaseRun) : Prop where
  expansions : (expansions.all fun e => e.2.all fun n => marks.all fun p => Nat.blt n p.1 || Nat.blt p.2 n) = true
  runs : (runs.all fun r => marks.all fun p =>
    Nat.blt (r.target + (r.last - r.first)) p.1 || Nat.blt p.2 r.target) = true

lemma unmarked_upper : Unmarked upperExpansions upperRuns where
  expansions := by decide +kernel
  runs := by decide +kernel

lemma unmarked_lower : Unmarked lowerExpansions lowerRuns where
  expansions := by decide +kernel
  runs := by decide +kernel

lemma not_isMark_ofNat {n : Nat} (h : ∀ p ∈ marks, n < p.1 ∨ p.2 < n) : ¬IsMark (Char.ofNat n) := by
  intro hmark
  obtain ⟨p, hp, hfirst, hlast⟩ := hmark.exists_range
  by_cases hvalid : n.isValidChar
  · rw [toNat_ofNat hvalid] at hfirst hlast
    have hout := h p hp
    omega
  · -- what is no code point stands for the zero character
    have hzero : (Char.ofNat n).toNat = 0 := by
      rw [Char.ofNat, dif_neg hvalid]
      rfl
    have hpos : ∀ p ∈ marks, 0 < p.1 := by decide
    have hmin := hpos p hp
    omega

lemma eq_of_mem_mapCase {expansions : List (Nat × List Nat)} {runs : List CaseRun} {c d : Char}
    (h : Unmarked expansions runs) (hd : d ∈ mapCase expansions runs c) (hmark : IsMark d) : d = c := by
  rcases mapCase_cases expansions runs c with ⟨e, he, -, himage⟩ | ⟨r, hr, m, hm, himage⟩ | ⟨-, hself⟩
  · rw [himage] at hd
    obtain ⟨n, hn, rfl⟩ := List.mem_map.mp hd
    refine absurd hmark (not_isMark_ofNat fun p hp => ?_)
    have hout := List.all_eq_true.mp (List.all_eq_true.mp (List.all_eq_true.mp h.expansions e he) n hn) p hp
    simpa only [Bool.or_eq_true, Nat.blt_eq] using hout
  · rw [himage] at hd
    obtain rfl := List.mem_singleton.mp hd
    refine absurd hmark (not_isMark_ofNat fun p hp => ?_)
    obtain ⟨⟨hfirst, hlast, -⟩, rfl⟩ := CaseRun.image?_eq_some.mp hm
    have hout := List.all_eq_true.mp (List.all_eq_true.mp h.runs r hr) p hp
    simp only [Bool.or_eq_true, Nat.blt_eq] at hout
    omega
  · rw [hself] at hd
    exact List.mem_singleton.mp hd

section Letters

variable {c d : Char}

lemma eq_of_mem_upper (hd : d ∈ upper c) (hmark : IsMark d) : d = c := eq_of_mem_mapCase unmarked_upper hd hmark

lemma eq_of_mem_lower (hd : d ∈ lower c) (hmark : IsMark d) : d = c := eq_of_mem_mapCase unmarked_lower hd hmark

lemma upper_eq_cons (c : Char) : ∃ d rest, upper c = d :: rest := by
  rcases mapCase_cases upperExpansions upperRuns c with ⟨e, he, -, himage⟩ | ⟨r, hr, m, -, himage⟩ | ⟨-, hself⟩
  · obtain ⟨head, rest, hhead, -⟩ := settled_of_expansion he
    exact ⟨Char.ofNat head, rest.map Char.ofNat, by rw [upper, himage, hhead, List.map_cons]⟩
  · exact ⟨_, [], himage⟩
  · exact ⟨_, [], hself⟩

lemma lower_eq_cons (c : Char) : ∃ d rest, lower c = d :: rest := by
  rcases mapCase_cases lowerExpansions lowerRuns c with ⟨e, he, -, himage⟩ | ⟨r, hr, m, -, himage⟩ | ⟨-, hself⟩
  · obtain rfl := List.mem_singleton.mp he
    exact ⟨_, _, himage⟩
  · exact ⟨_, [], himage⟩
  · exact ⟨_, [], hself⟩

end Letters

def Joined (text : List Char) : Prop := ∀ c ∈ text, isSeparator c = false

lemma Joined.not_mem {text : List Char} {c : Char} (h : Joined text) (hc : isSeparator c = true) : c ∉ text :=
  fun hmem => Bool.false_ne_true ((h c hmem).symm.trans hc)

lemma joined_append {a b : List Char} : Joined (a ++ b) ↔ Joined a ∧ Joined b := by
  simp only [Joined, List.forall_mem_append]

lemma joined_mapCase {expansions : List (Nat × List Nat)} {runs : List CaseRun} {c : Char}
    (h : Unmarked expansions runs) (hc : isSeparator c = false) : Joined (mapCase expansions runs c) := by
  intro d hd
  by_contra hsep
  rw [Bool.not_eq_false] at hsep
  rw [← eq_of_mem_mapCase h hd (.inl hsep), hsep] at hc
  cases hc

lemma joined_upper {c : Char} (h : isSeparator c = false) : Joined (upper c) := joined_mapCase unmarked_upper h

lemma joined_lower {c : Char} (h : isSeparator c = false) : Joined (lower c) := joined_mapCase unmarked_lower h

lemma joined_capitalize {text : List Char} (h : Joined text) : Joined (capitalize text) := by
  cases text with
  | nil => exact h
  | cons c rest =>
    obtain ⟨hc, hrest⟩ := List.forall_mem_cons.mp h
    exact joined_append.mpr ⟨joined_upper hc, hrest⟩

lemma joined_uncapitalize {text : List Char} (h : Joined text) : Joined (uncapitalize text) := by
  cases text with
  | nil => exact h
  | cons c rest =>
    obtain ⟨hc, hrest⟩ := List.forall_mem_cons.mp h
    exact joined_append.mpr ⟨joined_lower hc, hrest⟩

lemma words_cons_of_joined {c : Char} (h : isSeparator c = false) (rest : List Char) :
    ∃ word others, words rest = word :: others ∧ words (c :: rest) = (c :: word) :: others := by
  obtain ⟨word, others, hwords⟩ := List.exists_cons_of_ne_nil (words_ne_nil rest)
  exact ⟨word, others, hwords, by simp [words, h, hwords]⟩

lemma joined_of_mem_words {text word : List Char} (h : word ∈ words text) : Joined word := by
  induction text generalizing word with
  | nil =>
    obtain rfl := List.mem_singleton.mp h
    exact fun c hc => absurd hc List.not_mem_nil
  | cons c rest ih =>
    cases hc : isSeparator c with
    | true =>
      rw [words_cons_of_separator hc] at h
      rcases List.mem_cons.mp h with rfl | h
      · exact fun c hc => absurd hc List.not_mem_nil
      · exact ih h
    | false =>
      obtain ⟨first, others, hrest, hcons⟩ := words_cons_of_joined hc rest
      rw [hcons] at h
      rcases List.mem_cons.mp h with rfl | h
      · exact List.forall_mem_cons.mpr ⟨hc, ih (hrest ▸ List.mem_cons_self)⟩
      · exact ih (hrest ▸ List.mem_cons_of_mem first h)

lemma words_of_joined {text : List Char} (h : Joined text) : words text = [text] := by
  induction text with
  | nil => rfl
  | cons c rest ih =>
    obtain ⟨hc, hrest⟩ := List.forall_mem_cons.mp h
    simp [words, hc, ih hrest]

lemma joinWords_of_joined {text : List Char} (h : Joined text) : joinWords text = capitalize text := by
  simp [joinWords, words_of_joined h]

lemma joinWords_cases (text : List Char) :
    (text.find? (!isSeparator ·) = none ∧ joinWords text = []) ∨
      ∃ c rest, text.find? (!isSeparator ·) = some c ∧ joinWords text = upper c ++ rest ∧ Joined rest := by
  induction text with
  | nil => exact .inl ⟨rfl, rfl⟩
  | cons c rest ih =>
    cases hc : isSeparator c with
    | true =>
      have hjoin : joinWords (c :: rest) = joinWords rest := by
        rw [joinWords, words_cons_of_separator hc]
        rfl
      rw [hjoin, List.find?_cons_of_neg (by simp [hc])]
      exact ih
    | false =>
      obtain ⟨word, others, hrest, hcons⟩ := words_cons_of_joined hc rest
      refine .inr ⟨c, word ++ others.flatMap capitalize, List.find?_cons_of_pos (by simp [hc]), ?_, ?_⟩
      · rw [joinWords, hcons, List.flatMap_cons, capitalize, List.append_assoc]
      · refine joined_append.mpr ⟨joined_of_mem_words (hrest ▸ List.mem_cons_self), fun d hd => ?_⟩
        obtain ⟨other, hother, hd⟩ := List.mem_flatMap.mp hd
        exact joined_capitalize (joined_of_mem_words (hrest ▸ List.mem_cons_of_mem word hother)) d hd

lemma joined_joinWords (text : List Char) : Joined (joinWords text) := by
  rcases joinWords_cases text with ⟨-, hnil⟩ | ⟨c, rest, hfind, hjoin, hrest⟩
  · rw [hnil]
    exact fun c hc => absurd hc List.not_mem_nil
  · have hc : isSeparator c = false := by simpa using List.find?_some hfind
    rw [hjoin]
    exact joined_append.mpr ⟨joined_upper hc, hrest⟩

lemma joined_clean (raw : String) (case : Case) : Joined (clean raw case).toList := by
  cases case with
  | type =>
    rw [clean, String.toList_ofList]
    exact joined_joinWords _
  | member =>
    rw [clean, String.toList_ofList]
    exact joined_uncapitalize (joined_joinWords _)

lemma head?_clean_eq_slash (raw : String) (case : Case) :
    (clean raw case).toList.head? = some '/' ↔ raw.toList.find? (!isSeparator ·) = some '/' := by
  have hup : upper '/' = ['/'] := by decide +kernel
  have hdown : lower '/' = ['/'] := by decide +kernel
  rcases joinWords_cases raw.toList with ⟨hfind, hjoin⟩ | ⟨c, rest, hfind, hjoin, -⟩
  · cases case <;> simp [clean, hjoin, hfind]
  · -- neither mapping of cases makes a slash or changes one
    obtain ⟨d, others, hd⟩ := upper_eq_cons c
    have hupper : d = '/' ↔ c = '/' := by
      refine ⟨fun h => h ▸ (eq_of_mem_upper (hd ▸ List.mem_cons_self) (.inr h)).symm, ?_⟩
      rintro rfl
      exact (List.cons.inj (hd.symm.trans hup)).1
    rw [hfind, Option.some_inj, ← hupper]
    cases case with
    | type => simp [clean, hjoin, hd]
    | member =>
      obtain ⟨e, tail, he⟩ := lower_eq_cons d
      have hlower : e = '/' ↔ d = '/' := by
        refine ⟨fun h => h ▸ (eq_of_mem_lower (he ▸ List.mem_cons_self) (.inr h)).symm, ?_⟩
        rintro rfl
        exact (List.cons.inj (he.symm.trans hdown)).1
      simp [clean, hjoin, hd, uncapitalize, he, hlower]

section Escaping

lemma toList_escape_of_reserved {name : String} (h : isReserved name = true) :
    (escape name).toList = '\x60' :: (name.toList ++ ['\x60']) := by
  simp [escape, h]

lemma joined_escape {name : String} (h : Joined name.toList) : Joined (escape name).toList := by
  cases hreserved : isReserved name with
  | true =>
    rw [toList_escape_of_reserved hreserved]
    refine List.forall_mem_cons.mpr ⟨by decide, joined_append.mpr ⟨h, ?_⟩⟩
    exact List.forall_mem_singleton.mpr (by decide)
  | false => rwa [escape_of_not_reserved hreserved]

lemma head?_escape_eq_slash (name : String) :
    (escape name).toList.head? = some '/' ↔ name.toList.head? = some '/' := by
  cases hreserved : isReserved name with
  | true =>
    have hfree : ∀ w ∈ reservedWords, w.toList.head? ≠ some '/' := by decide
    have hname := hfree name (List.contains_iff_mem.mp hreserved)
    simp [toList_escape_of_reserved hreserved, hname]
  | false => rw [escape_of_not_reserved hreserved]

end Escaping

/-- A name of a member with `ß` in front spelled with two letters. -/
def respelled : List Char → List Char
  | 'ß' :: rest => 's' :: 'S' :: rest
  | text => text

lemma respelled_of_head?_ne {text : List Char} (h : text.head? ≠ some 'ß') : respelled text = text := by
  cases text with
  | nil => rfl
  | cons c rest =>
    have hc : c ≠ 'ß' := fun heq => h (congrArg some heq)
    simp [respelled, hc]

lemma head?_respelled (text : List Char) : (respelled text).head? ≠ some 'ß' := by
  by_cases h : text.head? = some 'ß'
  · obtain ⟨rest, rfl⟩ := List.head?_eq_some_iff.mp h
    exact fun heq => absurd (Option.some.inj heq) (by decide)
  · rwa [respelled_of_head?_ne h]

lemma respelled_eq_self {text : List Char} : respelled text = text ↔ text.head? ≠ some 'ß' :=
  ⟨fun h => h ▸ head?_respelled text, respelled_of_head?_ne⟩

lemma eq_or_of_respelled_eq {a b : List Char} (h : respelled a = respelled b) :
    a = b ∨ ∃ rest, a = 'ß' :: rest ∧ b = 's' :: 'S' :: rest ∨ b = 'ß' :: rest ∧ a = 's' :: 'S' :: rest := by
  by_cases ha : a.head? = some 'ß' <;> by_cases hb : b.head? = some 'ß'
  · obtain ⟨rest, rfl⟩ := List.head?_eq_some_iff.mp ha
    obtain ⟨rest', rfl⟩ := List.head?_eq_some_iff.mp hb
    cases h
    exact .inl rfl
  · obtain ⟨rest, rfl⟩ := List.head?_eq_some_iff.mp ha
    exact .inr ⟨rest, .inl ⟨rfl, (h.trans (respelled_of_head?_ne hb)).symm⟩⟩
  · obtain ⟨rest, rfl⟩ := List.head?_eq_some_iff.mp hb
    exact .inr ⟨rest, .inr ⟨rfl, (respelled_of_head?_ne ha).symm.trans h⟩⟩
  · exact .inl ((respelled_of_head?_ne ha).symm.trans (h.trans (respelled_of_head?_ne hb)))

lemma uncapitalize_capitalize_sharp (rest : List Char) :
    uncapitalize (capitalize ('ß' :: rest)) = 's' :: 'S' :: rest := by
  have hup : upper 'ß' = ['S', 'S'] := by decide +kernel
  have hdown : lower 'S' = ['s'] := by decide +kernel
  simp [capitalize, hup, uncapitalize, hdown]

lemma uncapitalize_capitalize_clean (raw : String) :
    uncapitalize (capitalize (clean raw .member).toList) = respelled (clean raw .member).toList := by
  rw [clean, String.toList_ofList]
  rcases joinWords_cases raw.toList with ⟨-, hjoin⟩ | ⟨c, rest, -, hjoin, -⟩
  · rw [hjoin]
    rfl
  · obtain ⟨d, others, hd⟩ := upper_eq_cons c
    rw [hjoin, hd, List.cons_append, uncapitalize]
    rcases settled_or_sharp hd with hsettled | rfl
    · have hsame := hsettled (others ++ rest)
      have hhead : (lower d ++ (others ++ rest)).head? ≠ some 'ß' := by
        intro hsharp
        obtain ⟨tail, htail⟩ := List.head?_eq_some_iff.mp hsharp
        rw [htail, uncapitalize_capitalize_sharp] at hsame
        cases hsame
      rw [hsame, respelled_of_head?_ne hhead]
    · have hdown : lower 'ẞ' = ['ß'] := by decide +kernel
      rw [hdown]
      exact uncapitalize_capitalize_sharp _

def memberName (raw : String) : String := escape (clean raw .member)

lemma clean_of_joined {name : String} (h : Joined name.toList) :
    clean name .member = String.ofList (uncapitalize (capitalize name.toList)) := by
  rw [clean, joinWords_of_joined h]

theorem memberName_memberName (raw : String) :
    memberName (memberName raw) = String.ofList (respelled (memberName raw).toList) := by
  cases hreserved : isReserved (clean raw .member) with
  | true =>
    have hname : (memberName raw).toList = '\x60' :: ((clean raw .member).toList ++ ['\x60']) :=
      toList_escape_of_reserved hreserved
    have hjoined : Joined (memberName raw).toList := joined_escape (joined_clean raw .member)
    have hup : upper '\x60' = ['\x60'] := by decide +kernel
    have hdown : lower '\x60' = ['\x60'] := by decide +kernel
    have hquote (tail : List Char) : uncapitalize (capitalize ('\x60' :: tail)) = '\x60' :: tail := by
      simp [capitalize, hup, uncapitalize, hdown]
    have hsame : clean (memberName raw) .member = memberName raw := by
      rw [clean_of_joined hjoined, hname, hquote, ← hname, String.ofList_toList]
    have hfree : ∀ w ∈ reservedWords, w.toList.head? ≠ some '\x60' := by decide
    have hescape : isReserved (memberName raw) = false := by
      rw [isReserved, ← Bool.not_eq_true, List.contains_iff_mem]
      exact fun hmem => hfree _ hmem (by rw [hname]; rfl)
    rw [memberName, hsame, escape_of_not_reserved hescape, respelled_of_head?_ne, String.ofList_toList]
    simp [hname]
  | false =>
    have hname : memberName raw = clean raw .member := escape_of_not_reserved hreserved
    rw [hname, memberName, clean_of_joined (joined_clean raw .member), uncapitalize_capitalize_clean]
    refine escape_of_not_reserved ?_
    by_cases hsharp : (clean raw .member).toList.head? = some 'ß'
    · -- no reserved word begins with the letters that stand for `ß`
      obtain ⟨rest, hrest⟩ := List.head?_eq_some_iff.mp hsharp
      have hfree : ∀ w ∈ reservedWords, w.toList.take 2 ≠ ['s', 'S'] := by decide
      rw [isReserved, ← Bool.not_eq_true, List.contains_iff_mem]
      exact fun hmem => hfree _ hmem (by simp [hrest, respelled])
    · rw [respelled_of_head?_ne hsharp, String.ofList_toList]
      exact hreserved

end SwiftSource.Naming
