import SwiftSource.Proofs.CleanNames
import SwiftSource.Proofs.DraftMeaning
import SwiftSource.SourceFile

/-! Where a source file lies, seen from the base it is written under. Main statement: it lies beneath every base if
and only if its name is relative and leads nowhere up. A name taken from a declaration never leads up, but it is
absolute where the raw name begins with a slash. -/

namespace SwiftSource

namespace Path

variable {base path : String}

def names (path : String) : List String := (steps path).filter (!stays ·)

structure IsBeneath (base path : String) : Prop where
  isAbsolute : isAbsolute path = isAbsolute base
  names : ∃ rest, names path = names base ++ rest ∧ ".." ∉ rest

lemma split_cons_of_ne {c : Char} (h : c ≠ '/') (text : List Char) :
    ∃ piece others, split text = piece :: others ∧ split (c :: text) = (c :: piece) :: others := by
  cases htext : split text with
  | nil => cases text <;> grind [split]
  | cons piece others => exact ⟨piece, others, rfl, by simp [split, htext]⟩

lemma split_append (a b : List Char) : ∃ before last piece others,
    split a = before ++ [last] ∧ split b = piece :: others ∧
      split (a ++ b) = before ++ (last ++ piece) :: others := by
  -- by induction on the first text; only the two pieces that meet are joined
  induction a with
  | nil =>
    cases hb : split b with
    | nil => cases b <;> grind [split]
    | cons piece others => exact ⟨[], [], piece, others, rfl, rfl, hb⟩
  | cons c rest ih =>
    obtain ⟨before, last, piece, others, hrest, hb, happend⟩ := ih
    by_cases hc : c = '/'
    · subst hc
      exact ⟨[] :: before, last, piece, others, by simp [split, hrest], hb, by simp [split, happend]⟩
    · obtain ⟨first, more, hfirst, hcons⟩ := split_cons_of_ne hc rest
      obtain ⟨first', more', hfirst', hcons'⟩ := split_cons_of_ne hc (rest ++ b)
      rw [hrest] at hfirst
      rw [happend] at hfirst'
      cases before with
      | nil =>
        cases hfirst
        cases hfirst'
        exact ⟨[], c :: last, piece, others, hcons, hb, hcons'⟩
      | cons =>
        cases hfirst
        cases hfirst'
        exact ⟨(c :: first) :: _, last, piece, others, hcons, hb, hcons'⟩

lemma split_append_slash (a b : List Char) : split (a ++ '/' :: b) = split a ++ split b := by
  obtain ⟨before, last, piece, others, ha, hb, happend⟩ := split_append a ('/' :: b)
  cases hb
  rw [happend, ha, List.append_nil, List.append_assoc, List.singleton_append]

lemma mem_of_mem_split {text piece : List Char} {c : Char} (hpiece : piece ∈ split text) (hc : c ∈ piece) :
    c ∈ text := by
  induction text generalizing piece with
  | nil =>
    obtain rfl := List.mem_singleton.mp hpiece
    exact hc
  | cons d rest ih =>
    by_cases hd : d = '/'
    · subst hd
      rcases List.mem_cons.mp hpiece with rfl | hmem
      · cases hc
      · exact List.mem_cons_of_mem _ (ih hmem hc)
    · obtain ⟨first, others, hrest, hcons⟩ := split_cons_of_ne hd rest
      rw [hcons] at hpiece
      rcases List.mem_cons.mp hpiece with rfl | hmem
      · rcases List.mem_cons.mp hc with rfl | hc
        · exact List.mem_cons_self
        · exact List.mem_cons_of_mem d (ih (hrest ▸ List.mem_cons_self) hc)
      · exact List.mem_cons_of_mem d (ih (hrest ▸ List.mem_cons_of_mem first hmem) hc)

lemma split_eq_singleton {text : List Char} (h : '/' ∉ text) : split text = [text] := by
  induction text with
  | nil => rfl
  | cons c rest ih =>
    have hc : c ≠ '/' := fun heq => h (heq ▸ List.mem_cons_self)
    simp [split, ih fun hmem => h (List.mem_cons_of_mem c hmem)]

lemma steps_append_slash (a b : String) : steps (a ++ "/" ++ b) = steps a ++ steps b := by
  simp [steps, split_append_slash]

lemma names_append_slash (a b : String) : names (a ++ "/" ++ b) = names a ++ names b := by
  rw [names, steps_append_slash, List.filter_append, names, names]

lemma endsWithSlash_iff : endsWithSlash base = true ↔ ∃ front, base = front ++ "/" := by
  rw [endsWithSlash, decide_eq_true_iff, List.getLast?_eq_some_iff]
  refine ⟨fun ⟨front, hfront⟩ => ⟨String.ofList front, ?_⟩, fun ⟨front, hfront⟩ => ⟨front.toList, by simp [hfront]⟩⟩
  rw [← String.toList_inj, hfront]
  simp

lemma join_cases (base : String) (h : isAbsolute path = false) :
    (base = "" ∧ join base path = path) ∨ (∃ front, base = front ++ "/" ∧ join base path = front ++ "/" ++ path) ∨
      base ≠ "" ∧ join base path = base ++ "/" ++ path := by
  rw [join, h, if_neg Bool.false_ne_true]
  by_cases hempty : base = ""
  · subst hempty
    exact .inl ⟨rfl, String.empty_append⟩
  · have hbase : base.isEmpty = false := by simpa using hempty
    by_cases hslash : endsWithSlash base = true
    · obtain ⟨front, rfl⟩ := endsWithSlash_iff.mp hslash
      exact .inr (.inl ⟨front, rfl, by rw [hslash, Bool.or_true, if_pos rfl]⟩)
    · exact .inr (.inr ⟨hempty, by rw [hbase, Bool.false_or, if_neg hslash]⟩)

lemma names_join (h : isAbsolute path = false) : names (join base path) = names base ++ names path := by
  rcases join_cases base h with ⟨rfl, hjoin⟩ | ⟨front, rfl, hjoin⟩ | ⟨-, hjoin⟩ <;> rw [hjoin]
  · rfl
  · have hfront : names (front ++ "/") = names front := by
      rw [← String.append_empty (s := front ++ "/"), names_append_slash]
      exact List.append_nil _
    rw [hfront, names_append_slash]
  · exact names_append_slash base path

lemma isAbsolute_append {a : String} (b : String) (h : a ≠ "") : isAbsolute (a ++ b) = isAbsolute a := by
  obtain ⟨c, rest, ha⟩ := List.exists_cons_of_ne_nil (mt String.toList_eq_nil_iff.mp h)
  simp [isAbsolute, ha]

lemma isAbsolute_join (h : isAbsolute path = false) : isAbsolute (join base path) = isAbsolute base := by
  rcases join_cases base h with ⟨rfl, hjoin⟩ | ⟨front, rfl, hjoin⟩ | ⟨hbase, hjoin⟩ <;> rw [hjoin]
  · exact h
  · exact isAbsolute_append path (by simp)
  · rw [String.append_assoc]
    exact isAbsolute_append _ hbase

lemma join_of_isAbsolute (h : isAbsolute path = true) : join base path = path := by rw [join, if_pos h]

lemma isBeneath_join (h : isAbsolute path = false) : IsBeneath base (join base path) ↔ ".." ∉ steps path := by
  have hnames : ".." ∈ names path ↔ ".." ∈ steps path := by
    rw [names, List.mem_filter, and_iff_left (by decide)]
  rw [← hnames]
  refine ⟨fun ⟨_, rest, hrest, hdown⟩ => ?_, fun hdown => ⟨isAbsolute_join h, names path, names_join h, hdown⟩⟩
  rwa [List.append_cancel_left ((names_join h).symm.trans hrest)]

lemma dots_not_mem_steps {stem ext : String} (hstem : '.' ∉ stem.toList) (hslash : '/' ∉ ext.toList)
    (hext : ext ≠ ".") : ".." ∉ steps (stem ++ "." ++ ext) := by
  intro hmem
  obtain ⟨piece, hpiece, htext⟩ := List.mem_map.mp hmem
  obtain rfl : piece = ['.', '.'] := by rw [← String.toList_ofList (l := piece), htext]; rfl
  obtain ⟨before, last, first, others, hsplit, hrest, happend⟩ := split_append stem.toList ('.' :: ext.toList)
  have hsingle : split ('.' :: ext.toList) = ['.' :: ext.toList] :=
    split_eq_singleton (List.not_mem_cons_of_ne_of_not_mem (by decide) hslash)
  rw [hsingle] at hrest
  cases hrest
  have htoList : (stem ++ "." ++ ext).toList = stem.toList ++ '.' :: ext.toList := by simp
  rw [htoList, happend] at hpiece
  have hfree {p : List Char} (hp : p ∈ split stem.toList) : '.' ∉ p := fun hdot => hstem (mem_of_mem_split hp hdot)
  -- the piece is one of the stem or the last one, which the extension completes
  rcases List.mem_append.mp hpiece with hbefore | hlast
  · exact hfree (hsplit ▸ List.mem_append_left _ hbefore) List.mem_cons_self
  · have heq := List.mem_singleton.mp hlast
    cases last with
    | nil =>
      rw [List.nil_append, List.cons.injEq] at heq
      exact hext (String.toList_inj.mp heq.2.symm)
    | cons c rest =>
      have hc : '.' = c := (List.cons.inj heq).1
      exact hfree (hsplit ▸ List.mem_append_right _ List.mem_cons_self) (hc ▸ List.mem_cons_self)

end Path

namespace Declaration

def IsNamed (raw : String) : Declaration → Prop
  | .type t => t.name = Naming.clean raw .type
  | .field f => f.name = Naming.escape (Naming.clean raw .member)
  | .method m => m.name = Naming.clean raw .member
  | .parameter p => p.name = Naming.escape (Naming.clean raw .member)

lemma isNamed_build (raw : String) (kind : Kind) (edits : List TypeDraft.Edit) :
    IsNamed raw (.type ((TypeDraft.named raw kind).editAll edits).build) := by
  rw [TypeDraft.editAll_named]
  exact Heading.foldl_note_name

section

variable {raw : String} {d : Declaration}

lemma IsNamed.eq_clean (h : d.IsNamed raw) :
    ∃ case, d.heading.name = Naming.clean raw case ∨ d.heading.name = Naming.escape (Naming.clean raw case) := by
  cases d with
  | type t => exact ⟨.type, .inl h⟩
  | field f => exact ⟨.member, .inr h⟩
  | method m => exact ⟨.member, .inl h⟩
  | parameter p => exact ⟨.member, .inr h⟩

lemma IsNamed.joined (h : d.IsNamed raw) : Naming.Joined d.heading.name.toList := by
  obtain ⟨case, hname | hname⟩ := h.eq_clean <;> rw [hname]
  · exact Naming.joined_clean raw case
  · exact Naming.joined_escape (Naming.joined_clean raw case)

lemma IsNamed.dot_not_mem (h : d.IsNamed raw) : '.' ∉ d.heading.name.toList := h.joined.not_mem (by decide)

lemma IsNamed.head?_eq_slash (h : d.IsNamed raw) :
    d.heading.name.toList.head? = some '/' ↔ raw.toList.find? (!Naming.isSeparator ·) = some '/' := by
  obtain ⟨case, hname | hname⟩ := h.eq_clean <;> rw [hname]
  · exact Naming.head?_clean_eq_slash raw case
  · rw [Naming.head?_escape_eq_slash, Naming.head?_clean_eq_slash]

end

end Declaration

namespace SourceFile

def fileName (f : SourceFile) : String := f.writer.conventions.fileName f.stem

lemma path_eq_join (f : SourceFile) (base : String) : f.path base = Path.join base f.fileName := rfl

lemma fileName_eq (f : SourceFile) : f.fileName = f.stem ++ "." ++ f.writer.conventions.fileExtension := rfl

lemma isAbsolute_fileName (f : SourceFile) :
    Path.isAbsolute f.fileName = true ↔ f.stem.toList.head? = some '/' := by
  rw [fileName_eq, Path.isAbsolute, decide_eq_true_iff, String.toList_append, String.toList_append, List.append_assoc]
  cases f.stem.toList with
  | nil => simp
  | cons c rest => rfl

lemma beneath_iff (f : SourceFile) :
    (∀ base, Path.IsBeneath base (f.path base)) ↔
      Path.isAbsolute f.fileName = false ∧ ".." ∉ Path.steps f.fileName := by
  constructor
  · intro h
    have hrelative : Path.isAbsolute f.fileName = false := by
      by_contra habsolute
      rw [Bool.not_eq_false] at habsolute
      have hroot := (h "out").isAbsolute
      rw [path_eq_join, Path.join_of_isAbsolute habsolute, habsolute] at hroot
      revert hroot
      decide
    exact ⟨hrelative, (Path.isBeneath_join hrelative).mp (h "out")⟩
  · exact fun ⟨hrelative, hdown⟩ base => (Path.isBeneath_join hrelative).mpr hdown

/-- The base is lost where the name of the file is absolute, and left where a step of that name leads up. A name that
comes from a declaration has no such step, but begins as its raw name does. -/
theorem path_placement (f : SourceFile) :
    (∀ base, Path.isAbsolute f.fileName = true → f.path base = f.fileName) ∧
      (∀ base, Path.isAbsolute f.fileName = false →
        (Path.IsBeneath base (f.path base) ↔ ".." ∉ Path.steps f.fileName)) ∧
      ((∀ base, Path.IsBeneath base (f.path base)) ↔
        Path.isAbsolute f.fileName = false ∧ ".." ∉ Path.steps f.fileName) ∧
      (f.banner.fileName = none → '/' ∉ f.writer.conventions.fileExtension.toList →
        f.writer.conventions.fileExtension ≠ "." →
          (f.declarations = [] → ∀ base, Path.IsBeneath base (f.path base)) ∧
          ∀ d raw, f.declarations.head? = some d → d.IsNamed raw →
            ((∀ base, Path.IsBeneath base (f.path base)) ↔
              raw.toList.find? (!Naming.isSeparator ·) ≠ some '/')) := by
  refine ⟨fun _ => Path.join_of_isAbsolute, fun _ => Path.isBeneath_join, f.beneath_iff, fun hbanner hslash hext => ?_⟩
  have hiff (hdot : '.' ∉ f.stem.toList) :
      (∀ base, Path.IsBeneath base (f.path base)) ↔ f.stem.toList.head? ≠ some '/' := by
    have hdown : ".." ∉ Path.steps f.fileName := Path.dots_not_mem_steps hdot hslash hext
    rw [f.beneath_iff, and_iff_left hdown, ← Bool.not_eq_true, isAbsolute_fileName]
  refine ⟨fun hnone => ?_, fun d raw hfirst hnamed => ?_⟩
  · have hstem : f.stem = "Generated" := by rw [stem, hbanner, headings, hnone]; rfl
    rw [hstem] at hiff
    exact (hiff (by decide)).mpr (by decide)
  · have hstem : f.stem = d.heading.name := by rw [stem, hbanner, headings, List.head?_map, hfirst]; rfl
    rw [hstem] at hiff
    rw [hiff hnamed.dot_not_mem, ne_eq, hnamed.head?_eq_slash]

def ofStruct (raw : String) : SourceFile :=
  { banner := {}, declarations := [.type ((TypeDraft.named raw .structType).editAll []).build] }

theorem path_placement_invoice :
    (ofStruct "invoice/../line item").path "out" = "out/Invoice//lineItem.swift" ∧
      (∀ base, Path.IsBeneath base ((ofStruct "invoice/../line item").path base)) ∧
      ¬Path.IsBeneath "out" ({ banner := { fileName := some "../motd" } : SourceFile }.path "out") ∧
      ∀ base, { banner := { fileName := some "/etc/motd" } : SourceFile }.path base = "/etc/motd.swift" := by
  refine ⟨by decide +kernel, ?_, ?_, fun base => ?_⟩
  · have hplain := (path_placement (ofStruct "invoice/../line item")).2.2.2 rfl (by decide) (by decide)
    exact (hplain.2 _ "invoice/../line item" rfl (Declaration.isNamed_build _ _ _)).mpr (by decide)
  · intro hbeneath
    have hdown := ((path_placement { banner := { fileName := some "../motd" } }).2.1 "out" (by decide)).mp hbeneath
    exact hdown (by decide)
  · exact (path_placement { banner := { fileName := some "/etc/motd" } }).1 base (by decide)

theorem path_escapes :
    (ofStruct "/etc/motd").path "out" = "/etc/motd.swift" ∧
      ¬Path.IsBeneath "out" ((ofStruct "/etc/motd").path "out") := by
  have hpath : (ofStruct "/etc/motd").path "out" = "/etc/motd.swift" := by decide +kernel
  refine ⟨hpath, fun hbeneath => ?_⟩
  have hroot := hbeneath.isAbsolute
  rw [hpath] at hroot
  revert hroot
  decide

end SourceFile

end SwiftSource
