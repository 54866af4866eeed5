import SwiftSource.Declaration.Draft
import SwiftSource.Proofs.Script
import SwiftSource.Proofs.Text.Lines
import Mathlib.Algebra.Ring.Nat

/-! Documentation as comments. Free text goes into a comment as it stands, so the comment ends where it should just if
the text does not end it before. Main statement: what a description must not hold, for every kind of comment. -/

namespace SwiftSource

open Text

namespace Text

/-- The number of places at which `*/` stands. -/
def closings (s : List Char) : Nat := (s.zip s.tail).count ('*', '/')

@[simp] lemma closings_nil : closings [] = 0 := rfl

lemma closings_cons (c : Char) (s : List Char) :
    closings (c :: s) = closings s + if c = '*' ∧ s.head? = some '/' then 1 else 0 := by
  cases s with
  | nil => simp [closings]
  | cons d rest => simp [closings, List.count_cons]

lemma closings_cons_of_ne {c : Char} (h : c ≠ '*') (s : List Char) : closings (c :: s) = closings s := by
  rw [closings_cons, if_neg fun hc => h hc.1, Nat.add_zero]

lemma closings_append {a b : List Char} (h : a.getLast? = some '*' → b.head? ≠ some '/') :
    closings (a ++ b) = closings a + closings b := by
  induction a with
  | nil => simp [closings]
  | cons c rest ih =>
    cases rest with
    | nil =>
      have hc : ¬(c = '*' ∧ b.head? = some '/') := by simpa using h
      rw [List.singleton_append, closings_cons, if_neg hc]
      simp [closings]
    | cons d rest =>
      rw [List.getLast?_cons_cons] at h
      rw [List.cons_append, closings_cons, ih h, closings_cons c (d :: rest), Nat.add_right_comm]
      rfl

lemma closings_append_of_not_mem {a : List Char} (h : '*' ∉ a) (b : List Char) : closings (a ++ b) = closings b := by
  induction a with
  | nil => rfl
  | cons c rest ih =>
    obtain ⟨hc, hrest⟩ := List.ne_and_not_mem_of_not_mem_cons h
    rw [List.cons_append, closings_cons_of_ne (Ne.symm hc), ih hrest]

lemma closings_lines (s : List Char) : ((lines s).map closings).sum = closings s := by
  fun_induction lines s with
  | case1 => rfl
  | case2 rest ih => simpa [closings_cons_of_ne] using ih
  | case3 rest ih => simpa [closings_cons_of_ne] using ih
  | case4 c rest _ _ hnil ih =>
    rw [eq_nil_of_lines hnil]
    simp
  | case5 c rest _ _ line others hrest ih =>
    rw [hrest, List.map_cons, List.sum_cons] at ih
    rw [List.map_cons, List.sum_cons, closings_cons, closings_cons, ← ih]
    simp only [head?_of_lines hrest]
    omega

/-- Whole lines that hold `*/` some number of times, whatever follows them. -/
structure HoldsClosings (body : String) (n : Nat) : Prop where
  ends : body = "" ∨ ∃ b, body = b ++ "\n"
  closings_append : ∀ rest, closings (body.toList ++ rest) = n + closings rest

lemma holdsClosings_empty : HoldsClosings "" 0 := ⟨.inl rfl, fun _ => (Nat.zero_add _).symm⟩

lemma holdsClosings_break : HoldsClosings "\n" 0 :=
  ⟨.inr ⟨"", rfl⟩, fun rest => (closings_cons_of_ne (by decide) rest).trans (Nat.zero_add _).symm⟩

lemma HoldsClosings.append {a b : String} {m n : Nat} (ha : HoldsClosings a m) (hb : HoldsClosings b n) :
    HoldsClosings (a ++ b) (m + n) where
  ends := by
    obtain rfl | ⟨c, rfl⟩ := hb.ends
    · rw [String.append_empty]
      exact ha.ends
    · exact .inr ⟨a ++ c, by rw [String.append_assoc]⟩
  closings_append rest := by
    rw [String.toList_append, List.append_assoc, ha.closings_append, hb.closings_append, Nat.add_assoc]

lemma holdsClosings_join {α : Type} {f : α → String} {g : α → Nat} (h : ∀ a, HoldsClosings (f a) (g a)) (l : List α) :
    HoldsClosings (String.join (l.map f)) (l.map g).sum := by
  induction l with
  | nil => exact holdsClosings_empty
  | cons a rest ih =>
    rw [List.map_cons, List.map_cons, String.join_cons, List.sum_cons]
    exact (h a).append ih

end Text

lemma Indent.not_mem_atLevel {i : Indent} {level : Nat} {c : Char} (hs : c ≠ ' ') (ht : c ≠ '\t') :
    c ∉ (i.atLevel level).toList := by
  rw [atLevel, String.toList_ofList, List.mem_flatten]
  rintro ⟨l, hl, hc⟩
  rw [List.eq_of_mem_replicate hl] at hc
  cases i with
  | spaces n =>
    rw [unit, String.toList_ofList] at hc
    exact hs (List.eq_of_mem_replicate hc)
  | tab => exact ht (List.mem_singleton.mp hc)

namespace Writer

variable (w : Writer)

lemma closings_indentationAt (level : Nat) (rest : List Char) :
    closings ((w.indentationAt level).toList ++ rest) = closings rest :=
  closings_append_of_not_mem (Indent.not_mem_atLevel (by decide) (by decide)) rest

/-! ### Lines of comment -/

def IsLineComment (text : String) : Prop := ∀ l ∈ lines text.toList, (w.indentation ++ "//").toList <+: l

lemma isLineComment_iff (d : String) :
    w.IsLineComment (w.indentation ++ "// " ++ d ++ "\n") ↔
      ∀ l ∈ (lines (d ++ "\n").toList).tail, (w.indentation ++ "//").toList <+: l := by
  have hlead {c : Char} (hc : c ≠ ' ' ∧ c ≠ '\t' ∧ c ≠ '/') : c ∉ (w.indentation ++ "// ").toList := by
    rw [String.toList_append, List.mem_append]
    rintro (h | h)
    · exact Indent.not_mem_atLevel hc.1 hc.2.1 h
    · simp [hc] at h
  obtain ⟨line, others, hlines⟩ := List.exists_cons_of_ne_nil (lines_ne_nil (s := (d ++ "\n").toList) (by simp))
  have hfirst : (w.indentation ++ "//").toList <+: (w.indentation ++ "// ").toList ++ line :=
    ⟨' ' :: line, by simp⟩
  have hall := lines_append (hlead (by decide)) (hlead (by decide)) hlines
  rw [IsLineComment, String.append_assoc, String.toList_append, hall, hlines, List.forall_mem_cons, List.tail_cons,
    and_iff_right hfirst]

lemma fieldDocumentation_iff (description : Option String) :
    ∃ text, w.fieldDocumentation description = w.push text ∧
      (w.IsLineComment text ↔
        ∀ d ∈ description, ∀ l ∈ (lines (d ++ "\n").toList).tail, (w.indentation ++ "//").toList <+: l) := by
  cases description with
  | none => exact ⟨"", w.push_empty.symm, by simp [IsLineComment, lines]⟩
  | some d => exact ⟨_, rfl, by simpa using w.isLineComment_iff d⟩

/-! ### Block comments -/

structure IsBlockComment (text : String) : Prop where
  delimited : ∃ body, text = w.indentation ++ "/**" ++ body ++ "\n" ++ w.indentation ++ "*/\n"
  closings_eq : closings text.toList = 1

def blockText (body : String) : String := w.indentation ++ "/**\n" ++ body ++ w.indentation ++ "*/\n"

lemma blockText_iff {body : String} {n : Nat} (h : HoldsClosings body n) :
    w.blockText body = "" ∨ w.IsBlockComment (w.blockText body) ↔ n = 0 := by
  have hne : w.blockText body ≠ "" := by simp [blockText]
  have hclosings : closings (w.blockText body).toList = n + 1 := by
    have hopen : ∀ rest, closings ("/**\n".toList ++ rest) = closings rest := by
      intro rest
      rw [closings_append fun hlast => absurd hlast (by decide)]
      exact Nat.zero_add _
    simp only [blockText, String.toList_append, List.append_assoc, indentation, closings_indentationAt, hopen,
      h.closings_append]
    rfl
  have hdelimited : ∃ b, w.blockText body = w.indentation ++ "/**" ++ b ++ "\n" ++ w.indentation ++ "*/\n" := by
    have hbreak : "/**\n" = "/**" ++ "\n" := rfl
    obtain rfl | ⟨b, rfl⟩ := h.ends
    · exact ⟨"", by simp only [blockText, hbreak, String.append_empty, String.append_assoc]⟩
    · exact ⟨"\n" ++ b, by simp only [blockText, hbreak, String.append_assoc]⟩
  rw [or_iff_right hne]
  constructor
  · intro hblock
    have hone := hblock.closings_eq
    omega
  · rintro rfl
    exact ⟨hdelimited, hclosings⟩

lemma holdsClosings_descriptionLines (level : Nat) (d : String) :
    HoldsClosings (w.descriptionLines level d) (closings d.toList) := by
  rw [← closings_lines]
  refine holdsClosings_join (fun l => ⟨.inr ⟨_, rfl⟩, fun rest => ?_⟩) _
  have hbreak : closings (l ++ '\n' :: rest) = closings l + closings rest := by
    rw [closings_append (by simp), closings_cons_of_ne (by decide)]
  have hlist : (w.indentationAt level ++ String.ofList l ++ "\n").toList ++ rest =
      (w.indentationAt level).toList ++ (l ++ '\n' :: rest) := by
    simp
  rw [hlist, closings_indentationAt, hbreak]

def closingsOf (description : Option String) : Nat := description.elim 0 fun d => closings d.toList

lemma closingsOf_eq_zero {description : Option String} :
    closingsOf description = 0 ↔ ∀ d ∈ description, closings d.toList = 0 := by
  cases description <;> simp [closingsOf]

def entryClosings (p : Parameter) : Nat := closings p.name.toList + closingsOf p.heading.description

lemma sum_entryClosings_eq_zero {l : List Parameter} :
    (l.map entryClosings).sum = 0 ↔
      ∀ p ∈ l, closings p.name.toList = 0 ∧ ∀ d ∈ p.heading.description, closings d.toList = 0 := by
  induction l with
  | nil => simp
  | cons p rest ih =>
    rw [List.map_cons, List.sum_cons, Nat.add_eq_zero_iff, ih, List.forall_mem_cons, entryClosings,
      Nat.add_eq_zero_iff, closingsOf_eq_zero]

lemma closings_parameterEntry (p : Parameter) {rest : List Char} (h : rest.head? = some '\n') :
    closings ((w.parameterEntry p).toList ++ rest) = entryClosings p + closings rest := by
  have hlead : ∀ s : List Char, closings ("\n\n".toList ++ ((w.indentationAt (w.level + 1)).toList ++
      ("  - ".toList ++ s))) = closings s := by
    intro s
    rw [closings_append_of_not_mem (by decide), closings_indentationAt, closings_append_of_not_mem (by decide)]
  rw [parameterEntry, entryClosings, closingsOf]
  simp only [String.toList_append, List.append_assoc, hlead]
  cases p.heading.description with
  | none =>
    rw [String.toList_empty, List.nil_append, closings_append (by simp [h])]
    rfl
  | some d =>
    have hcolon : closings (": ".toList ++ (d.toList ++ rest)) = closings d.toList + closings rest := by
      rw [closings_append_of_not_mem (by decide), closings_append (by simp [h])]
    rw [String.toList_append, List.append_assoc, closings_append (by simp), hcolon, Option.elim_some, Nat.add_assoc]

lemma closings_parameterEntries (l : List Parameter) {rest : List Char} (h : rest.head? = some '\n') :
    ((String.join (l.map w.parameterEntry)).toList ++ rest).head? = some '\n' ∧
      closings ((String.join (l.map w.parameterEntry)).toList ++ rest) =
        (l.map entryClosings).sum + closings rest := by
  induction l with
  | nil => exact ⟨h, (Nat.zero_add _).symm⟩
  | cons p others ih =>
    rw [List.map_cons, String.join_cons, String.toList_append, List.append_assoc]
    refine ⟨by simp [parameterEntry], ?_⟩
    rw [w.closings_parameterEntry p ih.1, ih.2, List.map_cons, List.sum_cons, Nat.add_assoc]

lemma holdsClosings_parameterSection (l : List Parameter) :
    HoldsClosings (w.parameterSection l) (l.map entryClosings).sum where
  ends := .inr ⟨_, rfl⟩
  closings_append rest := by
    have hhead : ('\n' :: rest).head? = some '\n' := rfl
    have hentries := (w.closings_parameterEntries l hhead).2
    have htitle : ∀ s : List Char, closings ("- Parameters:".toList ++ s) = closings s :=
      closings_append_of_not_mem (by decide)
    have hlist : (w.parameterSection l).toList ++ rest = (w.indentationAt (w.level + 1)).toList ++
        ("- Parameters:".toList ++ ((String.join (l.map w.parameterEntry)).toList ++ '\n' :: rest)) := by
      simp [parameterSection]
    rw [hlist, closings_indentationAt, htitle, hentries, closings_cons_of_ne (by decide)]

lemma methodDocumentation_iff (description : Option String) (l : List Parameter) :
    ∃ text, w.methodDocumentation description l = w.push text ∧
      (text = "" ∨ w.IsBlockComment text ↔
        (∀ d ∈ description, closings d.toList = 0) ∧
          ∀ p ∈ l, closings p.name.toList = 0 ∧ ∀ d ∈ p.heading.description, closings d.toList = 0) := by
  have hsection := w.holdsClosings_parameterSection l
  rw [← closingsOf_eq_zero, ← sum_entryClosings_eq_zero, ← Nat.add_eq_zero_iff]
  cases description with
  | none =>
    rw [closingsOf, Option.elim_none, Nat.zero_add]
    cases l with
    | nil => exact ⟨"", w.push_empty.symm, iff_of_true (.inl rfl) rfl⟩
    | cons p others => exact ⟨_, rfl, w.blockText_iff hsection⟩
  | some d =>
    have hlines := w.holdsClosings_descriptionLines (w.level + 1) d
    cases l with
    | nil => exact ⟨_, rfl, w.blockText_iff hlines⟩
    | cons p others => exact ⟨_, rfl, w.blockText_iff ((hlines.append holdsClosings_break).append hsection)⟩

lemma typeDocumentation_eq (description : Option String) :
    w.typeDocumentation description = w.methodDocumentation description [] := by
  cases description <;> rfl

/-- A line of a field's description must itself look like the start of a comment unless it is the first one, and in
the descriptions of types, methods and parameters, which only a `*/` ends, none must stand. -/
theorem documentation_confined (w : Writer) (f : Field) (t : TypeDeclaration) (m : Method) :
    ∃ fieldText typeText methodText : String,
      w.fieldDocumentation f.heading.description = w.push fieldText ∧
      w.typeDocumentation t.heading.description = w.push typeText ∧
      w.methodDocumentation m.heading.description m.parameters = w.push methodText ∧
      (w.IsLineComment fieldText ↔ ∀ d ∈ f.heading.description,
        ∀ l ∈ (lines (d ++ "\n").toList).tail, (w.indentation ++ "//").toList <+: l) ∧
      (typeText = "" ∨ w.IsBlockComment typeText ↔ ∀ d ∈ t.heading.description, closings d.toList = 0) ∧
      (methodText = "" ∨ w.IsBlockComment methodText ↔
        (∀ d ∈ m.heading.description, closings d.toList = 0) ∧
          ∀ p ∈ m.parameters, closings p.name.toList = 0 ∧ ∀ d ∈ p.heading.description, closings d.toList = 0) := by
  obtain ⟨fieldText, hfield, hlines⟩ := w.fieldDocumentation_iff f.heading.description
  obtain ⟨typeText, htype, htypes⟩ := w.methodDocumentation_iff t.heading.description []
  obtain ⟨methodText, hmethod, hmethods⟩ := w.methodDocumentation_iff m.heading.description m.parameters
  rw [← typeDocumentation_eq] at htype
  refine ⟨fieldText, typeText, methodText, hfield, htype, hmethod, hlines, ?_, hmethods⟩
  simpa using htypes

theorem documentation_escapes :
    (¬∀ (w : Writer) (f : Field) (text : String),
      w.fieldDocumentation f.heading.description = w.push text → w.IsLineComment text) ∧
    ¬∀ (w : Writer) (t : TypeDeclaration) (text : String),
      w.typeDocumentation t.heading.description = w.push text → text = "" ∨ w.IsBlockComment text := by
  constructor
  · intro h
    let f := (Field.named "total").note (.description "in cents\nlet rate = 1")
    have htext : indentation {} ++ "// " ++ "in cents\nlet rate = 1" ++ "\n" = "// in cents\nlet rate = 1\n" := by
      decide
    have hline := h {} f _ (congrArg (push {}) htext)
    exact absurd (hline "let rate = 1".toList (by decide)) (by decide)
  · intro h
    let t := ((TypeDraft.named "bill" .enumType).note (.description "*/ case free /*")).build
    have htext : blockText {} (descriptionLines {} 1 "*/ case free /*") = "/**\n    */ case free /*\n*/\n" := by decide
    obtain hempty | hblock := h {} t _ (congrArg (push {}) htext)
    · exact absurd hempty (by decide)
    · exact absurd hblock.closings_eq (by decide)

end Writer

end SwiftSource
