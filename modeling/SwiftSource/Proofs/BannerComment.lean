import SwiftSource.Proofs.FilePlacement
import SwiftSource.Proofs.Script
import SwiftSource.Proofs.Text.Lines

/-! The banner of a file as a comment. What a banner names stands on lines of its own behind `//`, and goes there as it
is, so that a line break in it may end the comment. Main statement: which texts of a banner can do so, and when. -/

namespace SwiftSource

open Text

namespace Declaration

variable {raw : String} {d : Declaration}

lemma IsNamed.newline_not_mem (h : d.IsNamed raw) : '\n' ∉ d.heading.name.toList := h.joined.not_mem (by decide)

end Declaration

namespace Banner

variable (b : Banner) (w : Writer) (headings : List Heading)

lemma toList_commentLine (text : String) :
    (commentLine text).toList = "//".toList ++ (if text.isEmpty then [] else "  ".toList ++ text.toList) := by
  rw [commentLine]
  split <;> simp

lemma slashes_prefix_commentLine (text : String) : "//".toList <+: (commentLine text).toList := by
  rw [toList_commentLine]
  exact List.prefix_append _ _

lemma staysInComment_commentLine (text : String) :
    StaysInComment (commentLine text).toList ↔ StaysInComment text.toList := by
  rw [toList_commentLine, staysInComment_append_of_not_mem (by decide)]
  split
  next hempty =>
    rw [String.isEmpty_iff.mp hempty, String.toList_empty]
  next => rw [staysInComment_append_of_not_mem (by decide)]

lemma commentLines (text : String) (rest : List String) :
    "//".toList <+: ("\n".intercalate ((text :: rest).map commentLine)).toList ∧
      (StaysInComment ("\n".intercalate ((text :: rest).map commentLine)).toList ↔
        ∀ t ∈ text :: rest, StaysInComment t.toList) := by
  induction rest generalizing text with
  | nil =>
    rw [List.map_singleton, String.intercalate_singleton, List.forall_mem_singleton]
    exact ⟨slashes_prefix_commentLine text, staysInComment_commentLine text⟩
  | cons next others ih =>
    obtain ⟨hopens, hstays⟩ := ih next
    have hlist : ("\n".intercalate ((text :: next :: others).map commentLine)).toList =
        (commentLine text).toList ++ '\n' :: ("\n".intercalate ((next :: others).map commentLine)).toList := by
      rw [List.map_cons, List.map_cons, String.intercalate_cons_cons]
      simp
    rw [hlist, slashes_prefix_append (by simp), staysInComment_append (by simp), staysInComment_cons,
      staysInComment_commentLine, List.forall_mem_cons, hstays, and_iff_right fun _ => hopens]
    exact ⟨slashes_prefix_commentLine text, Iff.rfl⟩

lemma forall_mem_closed (l : List String) :
    (∀ t ∈ closed l, StaysInComment t.toList) ↔ ∀ t ∈ l, StaysInComment t.toList := by
  cases l with
  | nil => rfl
  | cons t rest =>
    change (∀ a ∈ t :: rest ++ [""], StaysInComment a.toList) ↔ _
    rw [List.forall_mem_append, List.forall_mem_singleton]
    exact and_iff_left staysInComment_nil

lemma forall_mem_contents :
    (∀ t ∈ contents headings, StaysInComment t.toList) ↔ ∀ h ∈ headings, StaysInComment h.name.toList := by
  have hlabel (h : Heading) :
      StaysInComment (h.kind.label ++ " " ++ h.name).toList ↔ StaysInComment h.name.toList := by
    rw [String.toList_append, staysInComment_append_of_not_mem]
    cases h.kind <;> decide
  have htitle : StaysInComment "Contains:".toList := staysInComment_of_not_mem (by decide)
  cases headings with
  | nil => simp [contents]
  | cons h rest => simp only [contents, List.forall_mem_cons, and_iff_right htitle, List.forall_mem_map, hlabel]

lemma staysInComment_fileName (c : Conventions) (stem : String) :
    StaysInComment (c.fileName stem).toList ↔ StaysInComment stem.toList ∧ StaysInComment c.fileExtension.toList := by
  have hlist : (c.fileName stem).toList = stem.toList ++ (['.'] ++ c.fileExtension.toList) := by
    simp [Conventions.fileName]
  rw [hlist, staysInComment_between (by decide) (by decide)]

lemma staysInComment_stamp :
    StaysInComment (b.stamp w).toList ↔ StaysInComment w.conventions.generatorName.toList ∧
      (b.stampsDate.getD w.conventions.stampsDate = true → StaysInComment (w.conventions.dateText w.today).toList) := by
  have hlist : (b.stamp w).toList = "Generated by ".toList ++ (w.conventions.generatorName.toList ++
      if b.stampsDate.getD w.conventions.stampsDate then
        " on ".toList ++ (w.conventions.dateText w.today).toList else []) := by
    rw [stamp]
    split <;> simp
  rw [hlist, staysInComment_append_of_not_mem (by decide)]
  cases b.stampsDate.getD w.conventions.stampsDate with
  | false => simp
  | true =>
    have hbreak : '\n' ∉ " on ".toList := by decide
    rw [if_pos rfl, forall_prop_of_true rfl]
    exact staysInComment_between hbreak (by decide) _ _

lemma forall_mem_texts :
    (∀ t ∈ b.texts w headings, StaysInComment t.toList) ↔
      (∀ n ∈ b.fileName, StaysInComment n.toList ∧ StaysInComment w.conventions.fileExtension.toList) ∧
      (∀ o ∈ b.origin, StaysInComment o.toList) ∧
      (∀ h ∈ headings, StaysInComment h.name.toList) ∧
      StaysInComment w.conventions.generatorName.toList ∧
      (b.stampsDate.getD w.conventions.stampsDate = true →
        StaysInComment (w.conventions.dateText w.today).toList) := by
  have hempty : StaysInComment "".toList := staysInComment_nil
  have hframework (name : String) : StaysInComment (Naming.clean name .type).toList :=
    staysInComment_of_not_mem ((Naming.joined_clean name .type).not_mem (by decide))
  simp only [texts, List.forall_mem_append, List.forall_mem_cons, List.forall_mem_map, forall_mem_closed,
    forall_mem_contents, staysInComment_fileName, staysInComment_stamp, hframework, and_iff_right hempty,
    Option.mem_toList, Option.mem_def, List.not_mem_nil, false_implies, implies_true, and_true, and_assoc]

end Banner

namespace Writer

lemma banner_isCommentBlock_iff (w : Writer) (b : Banner) (headings : List Heading) :
    ∃ text, w.banner b headings = w.push text ∧
      (IsCommentBlock text ↔ ∀ t ∈ b.texts w headings, StaysInComment t.toList) := by
  obtain ⟨first, rest, htexts⟩ : ∃ first rest, b.texts w headings = first :: rest := ⟨_, _, rfl⟩
  obtain ⟨hopens, hstays⟩ := Banner.commentLines first rest
  rw [← htexts] at hopens hstays
  refine ⟨_, ?_, (isCommentBlock_iff hopens).trans hstays⟩
  rw [banner, newLine, newLine, push_push, push_push, String.append_assoc]

/-- A banner is a comment if and only if each of its texts stays in one. The names that declarations make from raw ones
always do. -/
theorem banner_confined (w : Writer) (b : Banner) (l : List Declaration) :
    ∃ text, w.banner b (l.map Declaration.heading) = w.push text ∧
      (IsCommentBlock text ↔
        (∀ n ∈ b.fileName, StaysInComment n.toList ∧ StaysInComment w.conventions.fileExtension.toList) ∧
        (∀ o ∈ b.origin, StaysInComment o.toList) ∧
        (∀ d ∈ l, StaysInComment d.heading.name.toList) ∧
        StaysInComment w.conventions.generatorName.toList ∧
        (b.stampsDate.getD w.conventions.stampsDate = true →
          StaysInComment (w.conventions.dateText w.today).toList)) ∧
      ∀ d raw, Declaration.IsNamed raw d → StaysInComment d.heading.name.toList := by
  obtain ⟨text, htext, hiff⟩ := w.banner_isCommentBlock_iff b (l.map Declaration.heading)
  rw [Banner.forall_mem_texts, List.forall_mem_map] at hiff
  exact ⟨text, htext, hiff, fun d raw hnamed => staysInComment_of_not_mem hnamed.newline_not_mem⟩

theorem banner_confined_checked :
    let b : Banner := { fileName := some "User", framework := some "my_models",
                        origin := some "From schema user.json\n// checked" }
    let user := Declaration.type ((TypeDraft.named "user" .structType).editAll []).build
    (banner {} b [user.heading]).text =
        "//\n//  User.swift\n//  MyModels\n//\n//  From schema user.json\n// checked\n//\n//  Contains:\n" ++
          "//  struct User\n//\n//  Generated by Poet on 1/1/70\n//\n\n" ∧
      IsCommentBlock (banner {} b [user.heading]).text := by
  intro b user
  refine ⟨by decide +kernel, ?_⟩
  obtain ⟨text, htext, hiff, hnamed⟩ := banner_confined {} b [user]
  have huser := hnamed user "user" (Declaration.isNamed_build _ _ _)
  have hdate : StaysInComment (Conventions.dateText {} Date.epoch).toList :=
    staysInComment_of_not_mem (by decide +kernel)
  have hwhole : (banner {} b [user.heading]).text = text := (congrArg Writer.text htext).trans String.empty_append
  rw [hwhole, hiff]
  refine ⟨?_, ?_, List.forall_mem_singleton.mpr huser, by decide, fun _ => hdate⟩
  · intro n hn
    obtain rfl : "User" = n := Option.some.inj hn
    decide
  · intro o ho
    obtain rfl : "From schema user.json\n// checked" = o := Option.some.inj ho
    decide

theorem banner_escapes :
    let byOrigin := (banner {} { origin := some "user.json\nlet rate = 1", stampsDate := some false } []).text
    let byTool := (banner { conventions := { generatorName := "Poet\nlet rate = 1", stampsDate := false } } {} []).text
    (byOrigin = "//\n//\n//  user.json\nlet rate = 1\n//\n//  Generated by Poet\n//\n\n" ∧
      ¬IsCommentBlock byOrigin) ∧
    byTool = "//\n//\n//  Generated by Poet\nlet rate = 1\n//\n\n" ∧ ¬IsCommentBlock byTool := by
  intro byOrigin byTool
  have horigin : byOrigin = "//\n//\n//  user.json\nlet rate = 1\n//\n//  Generated by Poet\n//\n\n" := by
    decide +kernel
  have htool : byTool = "//\n//\n//  Generated by Poet\nlet rate = 1\n//\n\n" := by decide +kernel
  rw [horigin, htool]
  exact ⟨⟨rfl, not_isCommentBlock (l := "let rate = 1".toList) (by decide) (by decide) (by decide)⟩, rfl,
    not_isCommentBlock (l := "let rate = 1".toList) (by decide) (by decide) (by decide)⟩

end Writer

end SwiftSource
