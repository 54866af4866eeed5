import SwiftSource.Banner
import SwiftSource.Proofs.CleanNames

/-! Laws of cleaned names. A separator cuts a raw name into two that can be cleaned apart, so that it never matters which
separators stand between two words, or how many. A cleaned type name is cleaned again to itself. -/

namespace SwiftSource

namespace Text

lemma capitalize_capitalize (text : List Char) : capitalize (capitalize text) = capitalize text := by
  cases text with
  | nil => rfl
  | cons c rest =>
    -- of an expansion only the first letter is capitalized again
    obtain ⟨d, others, hd⟩ := Naming.upper_eq_cons c
    rw [capitalize, hd, List.cons_append, capitalize, upper_of_upper hd, List.singleton_append]

end Text

namespace Naming

open Text

section Words

variable {run : List Char} {c : Char}

lemma words_append_separator (h : isSeparator c = true) (a b : List Char) :
    words (a ++ c :: b) = words a ++ words b := by
  induction a with
  | nil => exact words_cons_of_separator h b
  | cons d rest ih =>
    cases hd : isSeparator d with
    | true => rw [List.cons_append, words_cons_of_separator hd, words_cons_of_separator hd, ih, List.cons_append]
    | false =>
      obtain ⟨word, others, hrest, hcons⟩ := words_cons_of_joined hd rest
      simp [words, hd, ih, hrest]

def IsGap (run : List Char) : Prop := ∀ c ∈ run, isSeparator c = true

instance (run : List Char) : Decidable (IsGap run) := decidable_of_iff (run.all isSeparator) List.all_eq_true

lemma joinWords_append_separator (h : isSeparator c = true) (a b : List Char) :
    joinWords (a ++ c :: b) = joinWords a ++ joinWords b := by
  rw [joinWords, words_append_separator h, List.flatMap_append, joinWords, joinWords]

lemma joinWords_gap_append (h : IsGap run) (a : List Char) : joinWords (run ++ a) = joinWords a := by
  induction run with
  | nil => rfl
  | cons c rest ih =>
    obtain ⟨hc, hrest⟩ := List.forall_mem_cons.mp h
    exact (joinWords_append_separator hc [] (rest ++ a)).trans (ih hrest)

lemma joinWords_between (h : IsGap run) (hne : run ≠ []) (a b : List Char) :
    joinWords (a ++ run ++ b) = joinWords a ++ joinWords b := by
  obtain ⟨c, rest, rfl⟩ := List.exists_cons_of_ne_nil hne
  obtain ⟨hc, hrest⟩ := List.forall_mem_cons.mp h
  rw [List.append_assoc, List.cons_append, joinWords_append_separator hc, joinWords_gap_append hrest]

lemma joinWords_append_gap (h : IsGap run) (a : List Char) : joinWords (a ++ run) = joinWords a := by
  by_cases hne : run = []
  · rw [hne, List.append_nil]
  · have hend := joinWords_between h hne a []
    rwa [List.append_nil, show joinWords [] = [] from rfl, List.append_nil] at hend

end Words

lemma joinWords_joinWords (text : List Char) : joinWords (joinWords text) = joinWords text := by
  rw [joinWords_of_joined (joined_joinWords text)]
  rcases joinWords_cases text with ⟨-, hnil⟩ | ⟨c, rest, -, hjoin, -⟩
  · rw [hnil, capitalize_nil]
  · rw [hjoin]
    exact capitalize_capitalize (c :: rest)

lemma clean_eq_of_joinWords_eq {s t : String} (h : joinWords s.toList = joinWords t.toList) (case : Case) :
    clean s case = clean t case := by
  cases case with
  | type => rw [clean, clean, h]
  | member => rw [clean, clean, h]

lemma clean_clean (s : String) : clean (clean s .type) .type = clean s .type := by
  rw [clean, clean, String.toList_ofList, joinWords_joinWords]

/-- The last law is about the framework that a banner names: it may be cleaned already, by a declaration. -/
theorem cleaning_laws :
    (∀ (s t : String) (c : Char), isSeparator c = true →
      clean (s ++ String.singleton c ++ t) .type = clean s .type ++ clean t .type) ∧
    (∀ (s t run other : String) (case : Case), IsGap run.toList → IsGap other.toList → run ≠ "" → other ≠ "" →
      clean (s ++ run ++ t) case = clean (s ++ other ++ t) case) ∧
    (∀ (s before after : String) (case : Case), IsGap before.toList → IsGap after.toList →
      clean (before ++ s ++ after) case = clean s case) ∧
    (∀ (s : String) (case : Case), Joined (clean s case).toList) ∧
    (∀ s : String, clean (clean s .type) .type = clean s .type) ∧
    ∀ (h : Heading) (name : String) (b : Banner) (w : Writer) (l : List Heading),
      Banner.texts { b with framework := (h.note (.framework name)).framework } w l =
        Banner.texts { b with framework := some name } w l := by
  refine ⟨fun s t c hc => ?_, fun s t run other case hrun hother hne hne' => ?_,
    fun s before after case hbefore hafter => ?_, joined_clean, clean_clean, fun h name b w l => ?_⟩
  · have hcut : (s ++ String.singleton c ++ t).toList = s.toList ++ c :: t.toList := by simp
    rw [clean, hcut, joinWords_append_separator hc, String.ofList_append, clean, clean]
  · refine clean_eq_of_joinWords_eq ?_ case
    simp only [String.toList_append]
    rw [joinWords_between hrun (mt String.toList_eq_nil_iff.mp hne),
      joinWords_between hother (mt String.toList_eq_nil_iff.mp hne')]
  · refine clean_eq_of_joinWords_eq ?_ case
    simp only [String.toList_append]
    rw [List.append_assoc, joinWords_gap_append hbefore, joinWords_append_gap hafter]
  · have hframework : (h.note (.framework name)).framework = some (clean name .type) := rfl
    simp only [Banner.texts, Banner.stamp, hframework, Option.toList_some, List.map_cons, List.map_nil, clean_clean]

theorem cleaning_laws_expanding :
    isSeparator '\u2003' = true ∧ IsGap " .[".toList ∧ IsGap "_".toList ∧
      clean "ﬁscal\u2003ßum" .type = "FIscalSSum" ∧
      clean "ﬁscal .[ßum" .member = clean "ﬁscal_ßum" .member ∧
      clean "_ßum .[" .type = "SSum" ∧ clean "SSum" .type = "SSum" := by
  have hspace : isSeparator '\u2003' = true := by decide
  have hgap : IsGap " .[".toList := by decide
  have hline : IsGap "_".toList := by decide
  have hfirst : clean "ﬁscal" .type = "FIscal" := by decide +kernel
  have hsecond : clean "ßum" .type = "SSum" := by decide +kernel
  obtain ⟨hcut, hchoice, htrim, -, hagain, -⟩ := cleaning_laws
  refine ⟨hspace, hgap, hline, ?_, ?_, ?_, ?_⟩
  · exact (hcut "ﬁscal" "ßum" '\u2003' hspace).trans (by rw [hfirst, hsecond]; rfl)
  · exact hchoice "ﬁscal" "ßum" " .[" "_" .member hgap hline (by decide) (by decide)
  · exact (htrim "ßum" "_" " .[" .type hline hgap).trans hsecond
  · exact hsecond ▸ hagain "ßum"

end Naming

end SwiftSource
