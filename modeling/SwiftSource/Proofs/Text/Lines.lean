import SwiftSource.Text.Lines
import Mathlib.Data.List.Basic

/-! The lines of a text, taken apart at its first character and at a line break, and texts that stay in a comment of
lines. Main statement: a text that begins with `//` is a block of comment lines just if `//` follows each of its line
breaks. -/

namespace SwiftSource.Text

lemma lines_cons {c : Char} (hn : c ≠ '\n') (hr : c ≠ '\r') (s : List Char) :
    lines (c :: s) = match lines s with
      | [] => [[c]]
      | line :: others => (c :: line) :: others :=
  lines.eq_4 c s hn fun _ h _ => hr h

lemma lines_ne_nil {s : List Char} (h : s ≠ []) : lines s ≠ [] := by
  fun_cases lines s <;> simp_all

lemma mem_of_mem_lines {text line : List Char} {c : Char} (hl : line ∈ lines text) (hc : c ∈ line) :
    c ∈ text := by
  fun_induction lines text generalizing line with
  | case1 => exact absurd hl List.not_mem_nil
  | case2 rest ih =>
    rcases List.mem_cons.mp hl with rfl | h
    · exact absurd hc List.not_mem_nil
    · exact List.mem_cons_of_mem _ (ih h hc)
  | case3 rest ih =>
    rcases List.mem_cons.mp hl with rfl | h
    · exact absurd hc List.not_mem_nil
    · exact List.mem_cons_of_mem _ (List.mem_cons_of_mem _ (ih h hc))
  | case4 d rest _ _ _ ih =>
    rw [List.mem_singleton.mp hl] at hc
    rw [List.mem_singleton.mp hc]
    exact List.mem_cons_self
  | case5 d rest _ _ l others hrest ih =>
    rw [hrest] at ih
    rcases List.mem_cons.mp hl with rfl | h
    · rcases List.mem_cons.mp hc with rfl | h
      · exact List.mem_cons_self
      · exact List.mem_cons_of_mem _ (ih List.mem_cons_self h)
    · exact List.mem_cons_of_mem _ (ih (List.mem_cons_of_mem _ h) hc)

lemma lines_append {a s line : List Char} {others : List (List Char)} (hn : '\n' ∉ a) (hr : '\r' ∉ a)
    (hs : lines s = line :: others) : lines (a ++ s) = (a ++ line) :: others := by
  induction a with
  | nil => exact hs
  | cons c rest ih =>
    obtain ⟨hnc, hn⟩ := List.ne_and_not_mem_of_not_mem_cons hn
    obtain ⟨hrc, hr⟩ := List.ne_and_not_mem_of_not_mem_cons hr
    rw [List.cons_append, lines_cons (Ne.symm hnc) (Ne.symm hrc), ih hn hr]
    rfl

lemma head?_of_lines {s line : List Char} {others : List (List Char)} (h : lines s = line :: others) :
    line.head? = some '/' ↔ s.head? = some '/' := by
  fun_cases lines s <;> grind [lines]

lemma eq_nil_of_lines {s : List Char} (h : lines s = []) : s = [] := by_contra fun hne => lines_ne_nil hne h

lemma lines_before_break {c : Char} (hn : c ≠ '\n') :
    ∃ line, ∀ rest, lines (c :: '\n' :: rest) = line :: lines rest := by
  by_cases hr : c = '\r'
  · rw [hr]
    exact ⟨[], fun _ => rfl⟩
  · exact ⟨[c], fun _ => lines_cons hn hr _⟩

lemma lines_cons_append {c : Char} {s : List Char} (hs : s ≠ []) (hn : c ≠ '\n')
    (hr : ∀ rest, c = '\r' → s = '\n' :: rest → False) (t : List Char) :
    ∃ line others, lines (s ++ t) = line :: others ∧ lines (c :: (s ++ t)) = (c :: line) :: others := by
  obtain ⟨d, tail, rfl⟩ := List.exists_cons_of_ne_nil hs
  obtain ⟨line, others, hlines⟩ := List.exists_cons_of_ne_nil (lines_ne_nil (s := d :: tail ++ t) (by simp))
  refine ⟨line, others, hlines, ?_⟩
  rw [lines.eq_4 c _ hn fun _ hc hd => hr tail hc (by rw [(List.cons.inj hd).1]), hlines]

lemma lines_append_break (s rest : List Char) : lines (s ++ '\n' :: rest) = lines (s ++ ['\n']) ++ lines rest := by
  fun_induction lines s with
  | case1 => rfl
  | case2 s ih => simp [lines, ih]
  | case3 s ih => simp [lines, ih]
  | case4 c s hn _ hnil _ =>
    obtain ⟨line, hline⟩ := lines_before_break hn
    rw [eq_nil_of_lines hnil, List.singleton_append, List.singleton_append, hline, hline]
    rfl
  | case5 c s hn hr _ _ hs ih =>
    have hne : s ≠ [] := by
      rintro rfl
      cases hs
    obtain ⟨line, others, hlines, hcons⟩ := lines_cons_append hne hn hr ('\n' :: rest)
    obtain ⟨line', others', hlines', hcons'⟩ := lines_cons_append hne hn hr ['\n']
    rw [hlines, hlines', List.cons_append] at ih
    obtain ⟨rfl, rfl⟩ := List.cons.inj ih
    rw [List.cons_append, List.cons_append, hcons, hcons', List.cons_append]

/-! ### Comments -/

lemma slashes_prefix_iff (s : List Char) :
    "//".toList <+: s ↔ s.head? = some '/' ∧ s.tail.head? = some '/' := by
  change ['/', '/'] <+: s ↔ _
  rcases s with _ | ⟨c, _ | ⟨d, rest⟩⟩ <;> grind

lemma slashes_prefix_append {a b : List Char} (h : b.head? ≠ some '/') :
    "//".toList <+: a ++ b ↔ "//".toList <+: a := by
  rw [slashes_prefix_iff, slashes_prefix_iff]
  rcases a with _ | ⟨c, _ | ⟨d, rest⟩⟩ <;> simp_all

lemma slashes_prefix_of_lines {s line : List Char} {others : List (List Char)} (h : lines s = line :: others) :
    "//".toList <+: line ↔ "//".toList <+: s := by
  rw [slashes_prefix_iff, slashes_prefix_iff, head?_of_lines h]
  refine and_congr_right fun hslash => ?_
  obtain ⟨rest, rfl⟩ := List.head?_eq_some_iff.mp hslash
  rw [lines_cons (by decide) (by decide)] at h
  cases hrest : lines rest with
  | nil =>
    rw [hrest] at h
    cases h
    rw [eq_nil_of_lines hrest]
  | cons next more =>
    rw [hrest] at h
    cases h
    exact head?_of_lines hrest

/-- Every line break in a text is followed by the start of a comment. -/
def StaysInComment (s : List Char) : Prop := ∀ before after, s = before ++ '\n' :: after → "//".toList <+: after

section

variable {a b : List Char}

lemma staysInComment_nil : StaysInComment [] := fun before after h => by simp at h

lemma staysInComment_cons {c : Char} {s : List Char} :
    StaysInComment (c :: s) ↔ (c = '\n' → "//".toList <+: s) ∧ StaysInComment s := by
  constructor
  · intro h
    refine ⟨?_, fun before after hs => h (c :: before) after (by rw [hs, List.cons_append])⟩
    rintro rfl
    exact h [] s rfl
  · rintro ⟨hfirst, hrest⟩ before after h
    rcases List.cons_eq_append_iff.mp h with ⟨-, hnew⟩ | ⟨before', -, hs⟩
    · obtain ⟨rfl, rfl⟩ := List.cons.inj hnew
      exact hfirst rfl
    · exact hrest before' after hs

instance decidableStaysInComment : (s : List Char) → Decidable (StaysInComment s)
  | [] => .isTrue staysInComment_nil
  | c :: s =>
    have := decidableStaysInComment s
    decidable_of_iff ((c = '\n' → "//".toList <+: s) ∧ StaysInComment s) staysInComment_cons.symm

lemma staysInComment_append (h : b.head? ≠ some '/') :
    StaysInComment (a ++ b) ↔ StaysInComment a ∧ StaysInComment b := by
  induction a with
  | nil => exact (and_iff_right staysInComment_nil).symm
  | cons c rest ih =>
    rw [List.cons_append, staysInComment_cons, staysInComment_cons, ih, slashes_prefix_append h, and_assoc]

lemma staysInComment_of_not_mem (h : '\n' ∉ a) : StaysInComment a :=
  fun before after ha => absurd (ha ▸ by simp) h

lemma staysInComment_append_of_not_mem (h : '\n' ∉ a) (b : List Char) :
    StaysInComment (a ++ b) ↔ StaysInComment b := by
  induction a with
  | nil => rfl
  | cons c rest ih =>
    obtain ⟨hc, hrest⟩ := List.ne_and_not_mem_of_not_mem_cons h
    rw [List.cons_append, staysInComment_cons, and_iff_right fun heq => absurd heq.symm hc, ih hrest]

/-- A text between two others keeps them apart, if it does not itself go on with a comment. -/
lemma staysInComment_between {c : Char} {between : List Char} (hbreak : '\n' ∉ c :: between) (hslash : c ≠ '/')
    (a b : List Char) : StaysInComment (a ++ (c :: between ++ b)) ↔ StaysInComment a ∧ StaysInComment b := by
  rw [staysInComment_append (by simpa using hslash), staysInComment_append_of_not_mem hbreak]

end

lemma forall_lines_iff (s : List Char) :
    (∀ l ∈ lines (s ++ ['\n']), "//".toList <+: l) ↔
      "//".toList <+: s ∧ ∀ l ∈ (lines (s ++ ['\n'])).tail, "//".toList <+: l := by
  obtain ⟨line, others, hlines⟩ := List.exists_cons_of_ne_nil (lines_ne_nil (s := s ++ ['\n']) (by simp))
  rw [hlines, List.forall_mem_cons, slashes_prefix_of_lines hlines, slashes_prefix_append (by simp), List.tail_cons]

lemma forall_tail_lines_iff (s : List Char) :
    (∀ l ∈ (lines (s ++ ['\n'])).tail, "//".toList <+: l) ↔ StaysInComment s := by
  fun_induction lines s with
  | case1 => simp [lines, staysInComment_nil]
  | case2 s ih =>
    simpa [staysInComment_cons, lines] using (forall_lines_iff s).trans (and_congr_right fun _ => ih)
  | case3 s ih =>
    simpa [staysInComment_cons, lines] using (forall_lines_iff s).trans (and_congr_right fun _ => ih)
  | case4 c s hn _ hnil _ =>
    obtain ⟨line, hline⟩ := lines_before_break hn
    rw [eq_nil_of_lines hnil, List.singleton_append, hline, staysInComment_cons]
    simpa [staysInComment_nil, lines] using hn
  | case5 c s hn hr _ _ hs ih =>
    have hne : s ≠ [] := by
      rintro rfl
      cases hs
    obtain ⟨line, others, hlines, hcons⟩ := lines_cons_append hne hn hr ['\n']
    rw [hlines] at ih
    rw [List.cons_append, hcons, staysInComment_cons, and_iff_right fun hc => absurd hc hn]
    exact ih

/-- Lines that begin with `//`, at least one, and an empty line behind them. -/
def IsCommentBlock (text : String) : Prop :=
  ∃ ls : List (List Char), ls ≠ [] ∧ (∀ l ∈ ls, "//".toList <+: l) ∧ lines text.toList = ls ++ [[]]

lemma isCommentBlock_iff {s : String} (h : "//".toList <+: s.toList) :
    IsCommentBlock (s ++ "\n" ++ "\n") ↔ StaysInComment s.toList := by
  have hlines : lines (s ++ "\n" ++ "\n").toList = lines (s.toList ++ ['\n']) ++ [[]] := by
    have hlist : (s ++ "\n" ++ "\n").toList = s.toList ++ '\n' :: ['\n'] := by simp
    rw [hlist, lines_append_break]
    rfl
  have hall := forall_lines_iff s.toList
  rw [and_iff_right h, forall_tail_lines_iff] at hall
  rw [← hall]
  constructor
  · rintro ⟨ls, -, hcomment, heq⟩
    rwa [List.append_cancel_right (hlines.symm.trans heq)]
  · exact fun hcomment => ⟨_, lines_ne_nil (by simp), hcomment, hlines⟩

lemma not_isCommentBlock {text : String} {l : List Char} (hl : l ∈ lines text.toList) (hne : l ≠ [])
    (hcode : ¬"//".toList <+: l) : ¬IsCommentBlock text := by
  rintro ⟨ls, -, hcomment, hlines⟩
  rw [hlines, List.mem_append, List.mem_singleton, or_iff_left hne] at hl
  exact hcode (hcomment l hl)

end SwiftSource.Text
