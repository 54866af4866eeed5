import SwiftSource.Conventions.Load
import SwiftSource.Proofs.Toml.DistinctKeys

/-! What a document makes of the conventions. Each key settles one of them and leaves the others as they are, so in
which order the keys stand does not matter. -/

namespace SwiftSource.Conventions

open Toml

namespace Setting

def valueIn (c : Conventions) : Setting → Value
  | .indent =>
    match c.indent with
    | .spaces width => .integer width
    | .tab => .string "tab"
  | .generatorName => .string c.generatorName
  | .dateFormat => .string c.dateFormat
  | .stampsDate => .boolean c.stampsDate
  | .fileExtension => .string c.fileExtension

def Admits : Setting → Value → Prop
  | .indent, v => v = .string "tab" ∨ ∃ width : Nat, 1 ≤ width ∧ width ≤ 8 ∧ v = .integer width
  | .stampsDate, v => ∃ b, v = .boolean b
  | .generatorName, v | .dateFormat, v | .fileExtension, v => ∃ text, v = .string text

lemma key_injective {r s : Setting} (h : r.key = s.key) : r = s := by
  cases r <;> cases s <;> simp_all [key]

lemma ofKey?_eq_some {name : String} {s : Setting} : ofKey? name = some s ↔ name = s.key := by
  constructor
  · intro h
    have hs := List.find?_some (p := fun r : Setting => r.key = name) h
    exact (of_decide_eq_true hs).symm
  · rintro rfl
    cases s <;> decide

lemma ext_valueIn {c d : Conventions} (h : ∀ s : Setting, s.valueIn c = s.valueIn d) : c = d := by
  obtain ⟨indent, generatorName, dateFormat, stampsDate, fileExtension⟩ := c
  obtain ⟨indent', generatorName', dateFormat', stampsDate', fileExtension'⟩ := d
  have hindent := h .indent
  have hgenerator := h .generatorName
  have hformat := h .dateFormat
  have hstamps := h .stampsDate
  have hextension := h .fileExtension
  simp only [valueIn, Value.string.injEq, Value.boolean.injEq] at hgenerator hformat hstamps hextension
  have hi : indent = indent' := by
    cases indent <;> cases indent' <;> simp_all [valueIn, Int.ofNat_inj]
  rw [hi, hgenerator, hformat, hstamps, hextension]

end Setting

section Set

variable {c d : Conventions} {v : Value} {s : Setting}

def Takes (c : Conventions) (s : Setting) (v : Value) (d : Conventions) : Prop :=
  s.valueIn d = v ∧ ∀ r, r ≠ s → r.valueIn d = r.valueIn c

lemma admits_of_asIndent {i : Indent} (h : asIndent v = .ok i) : Setting.Admits .indent v := by
  cases v with
  | integer n =>
    rw [asIndent] at h
    split at h
    · cases h
    next hrange =>
      split at h
      next hwidth =>
        have hn : n = n.toNat := by omega
        exact .inr ⟨n.toNat, hwidth.1, hwidth.2, congrArg Value.integer hn⟩
      next => cases h
  | string name =>
    rw [asIndent] at h
    split at h
    next hname => exact .inl (congrArg Value.string hname)
    next => cases h
  | _ => cases h

lemma asIndent_width {width : Nat} (h₁ : 1 ≤ width) (h₈ : width ≤ 8) :
    asIndent (.integer width) = .ok (.spaces width) := by
  have hrange : ¬((width : Int) < 0 ∨ 255 < (width : Int)) := by omega
  have hwidth : Indent.IsWidth (width : Int).toNat := ⟨h₁, h₈⟩
  rw [asIndent, if_neg hrange, if_pos hwidth]
  rfl

lemma asString_eq_ok {text : String} : asString v = .ok text ↔ v = .string text := by
  cases v <;> simp [asString]

lemma asBoolean_eq_ok {b : Bool} : asBoolean v = .ok b ↔ v = .boolean b := by
  cases v <;> simp [asBoolean]

lemma admits_of_set (h : c.set v s = .ok d) : s.Admits v := by
  cases s with
  | indent =>
    obtain ⟨i, hi, -⟩ := bind_eq_ok.mp h
    exact admits_of_asIndent hi
  | stampsDate =>
    obtain ⟨b, hb, -⟩ := bind_eq_ok.mp h
    exact ⟨b, asBoolean_eq_ok.mp hb⟩
  | generatorName | dateFormat | fileExtension =>
    obtain ⟨text, htext, -⟩ := bind_eq_ok.mp h
    exact ⟨text, asString_eq_ok.mp htext⟩

lemma valueIn_of_set {r : Setting} (h : c.set v s = .ok d) (hr : r ≠ s) : r.valueIn d = r.valueIn c := by
  cases s <;> obtain ⟨_, -, hd⟩ := bind_eq_ok.mp h <;> cases hd <;> cases r <;> first | rfl | exact absurd rfl hr

lemma set_of_admits (c : Conventions) (h : s.Admits v) : ∃ d, c.set v s = .ok d ∧ c.Takes s v d := by
  have hset : ∃ d, c.set v s = .ok d ∧ s.valueIn d = v := by
    cases s with
    | indent =>
      rcases h with rfl | ⟨width, h₁, h₈, rfl⟩
      · exact ⟨_, rfl, rfl⟩
      · exact ⟨_, bind_eq_ok.mpr ⟨_, asIndent_width h₁ h₈, rfl⟩, rfl⟩
    | generatorName | dateFormat | stampsDate | fileExtension =>
      obtain ⟨_, rfl⟩ := h
      exact ⟨_, rfl, rfl⟩
  obtain ⟨d, hd, hv⟩ := hset
  exact ⟨d, hd, hv, fun r => valueIn_of_set hd⟩

lemma takes_unique {d' : Conventions} (h : c.Takes s v d) (h' : c.Takes s v d') : d = d' := by
  apply Setting.ext_valueIn
  intro r
  by_cases hr : r = s
  · rw [hr, h.1, h'.1]
  · rw [h.2 r hr, h'.2 r hr]

lemma set_eq_ok : c.set v s = .ok d ↔ s.Admits v ∧ c.Takes s v d := by
  constructor
  · intro h
    have hadmits := admits_of_set h
    obtain ⟨d', hd, htakes⟩ := set_of_admits c hadmits
    cases h.symm.trans hd
    exact ⟨hadmits, htakes⟩
  · rintro ⟨hadmits, htakes⟩
    obtain ⟨d', hd, htakes'⟩ := set_of_admits c hadmits
    rw [hd, takes_unique htakes' htakes]

end Set

structure SettledBy (start : Conventions) (entries : List Entry) (c : Conventions) : Prop where
  given : ∀ e ∈ entries, ∀ s : Setting, e.key = s.key → s.valueIn c = e.value
  kept : ∀ s : Setting, (∀ e ∈ entries, e.key ≠ s.key) → s.valueIn c = s.valueIn start

def Fit (entries : List Entry) : Prop := ∀ e ∈ entries, ∃ s : Setting, e.key = s.key ∧ s.Admits e.value

lemma takeEntry_eq_ok {c d : Conventions} {e : Entry} :
    takeEntry c e = .ok d ↔ ∃ s : Setting, e.key = s.key ∧ s.Admits e.value ∧ c.Takes s e.value d := by
  rw [takeEntry]
  cases hs : Setting.ofKey? e.key with
  | none =>
    refine iff_of_false (by simp) ?_
    rintro ⟨s, hkey, -⟩
    rw [Setting.ofKey?_eq_some.mpr hkey] at hs
    cases hs
  | some s =>
    have hkey := Setting.ofKey?_eq_some.mp hs
    simp only [mapError_eq_ok, set_eq_ok]
    constructor
    · exact fun h => ⟨s, hkey, h⟩
    · rintro ⟨r, hr, h⟩
      rwa [Setting.key_injective (hkey.symm.trans hr)]

/-- The entry in front is taken over first. The others have other keys, so none of them settles its setting again. -/
lemma settledBy_cons {start c d : Conventions} {e : Entry} {rest : List Entry} {s : Setting} (hs : e.key = s.key)
    (hnew : e.key ∉ rest.map Entry.key) (hd : start.Takes s e.value d) :
    start.SettledBy (e :: rest) c ↔ d.SettledBy rest c := by
  have hothers : ∀ e' ∈ rest, e'.key ≠ s.key := fun e' he' h => hnew (hs.trans h.symm ▸ List.mem_map_of_mem he')
  constructor
  · rintro ⟨hgiven, hkept⟩
    refine ⟨fun e' he' => hgiven e' (List.mem_cons_of_mem e he'), fun r hr => ?_⟩
    by_cases hrs : r = s
    · rw [hrs, hd.1]
      exact hgiven e List.mem_cons_self s hs
    · rw [hd.2 r hrs]
      refine hkept r (List.forall_mem_cons.mpr ⟨fun her => hrs ?_, hr⟩)
      exact Setting.key_injective (her.symm.trans hs)
  · rintro ⟨hgiven, hkept⟩
    refine ⟨List.forall_mem_cons.mpr ⟨fun r hr => ?_, hgiven⟩, fun r hr => ?_⟩
    · obtain rfl := Setting.key_injective (hr.symm.trans hs)
      rw [hkept r hothers, hd.1]
    · obtain ⟨her, hrest⟩ := List.forall_mem_cons.mp hr
      rw [hkept r hrest, hd.2 r fun hrs => her (hrs ▸ hs)]

lemma foldlM_takeEntry {entries : List Entry} (hkeys : (entries.map Entry.key).Nodup) {start c : Conventions} :
    entries.foldlM takeEntry start = .ok c ↔ Fit entries ∧ start.SettledBy entries c := by
  induction entries generalizing start with
  | nil =>
    constructor
    · intro h
      cases h
      exact ⟨List.forall_mem_nil _, List.forall_mem_nil _, fun _ _ => rfl⟩
    · rintro ⟨-, -, hkept⟩
      exact congrArg Except.ok (Setting.ext_valueIn fun s => (hkept s (List.forall_mem_nil _)).symm)
  | cons e rest ih =>
    rw [List.map_cons, List.nodup_cons] at hkeys
    rw [List.foldlM_cons, bind_eq_ok]
    constructor
    · rintro ⟨d, he, hrest⟩
      obtain ⟨s, hs, hadmits, hd⟩ := takeEntry_eq_ok.mp he
      obtain ⟨hfit, hsettled⟩ := (ih hkeys.2).mp hrest
      exact ⟨List.forall_mem_cons.mpr ⟨⟨s, hs, hadmits⟩, hfit⟩, (settledBy_cons hs hkeys.1 hd).mpr hsettled⟩
    · rintro ⟨hfit, hsettled⟩
      obtain ⟨⟨s, hs, hadmits⟩, hrest⟩ := List.forall_mem_cons.mp hfit
      obtain ⟨d, -, hd⟩ := set_of_admits start hadmits
      have hsettled' := (settledBy_cons hs hkeys.1 hd).mp hsettled
      exact ⟨d, takeEntry_eq_ok.mpr ⟨s, hs, hadmits, hd⟩, (ih hkeys.2).mpr ⟨hrest, hsettled'⟩⟩

lemma exists_settledBy {entries : List Entry} (hkeys : (entries.map Entry.key).Nodup) (hfit : Fit entries)
    (start : Conventions) : ∃ c, start.SettledBy entries c := by
  induction entries generalizing start with
  | nil => exact ⟨start, List.forall_mem_nil _, fun _ _ => rfl⟩
  | cons e rest ih =>
    rw [List.map_cons, List.nodup_cons] at hkeys
    obtain ⟨⟨s, hs, hadmits⟩, hrest⟩ := List.forall_mem_cons.mp hfit
    obtain ⟨d, -, hd⟩ := set_of_admits start hadmits
    obtain ⟨c, hc⟩ := ih hkeys.2 hrest d
    exact ⟨c, (settledBy_cons hs hkeys.1 hd).mpr hc⟩

section Order

variable {l m : List Entry} (h : l.Perm m)

include h

lemma fit_perm : Fit l ↔ Fit m := by
  simp only [Fit, h.mem_iff]

lemma settledBy_perm {start c : Conventions} : start.SettledBy l c ↔ start.SettledBy m c := by
  constructor
  · rintro ⟨hgiven, hkept⟩
    simp only [h.mem_iff] at hgiven hkept
    exact ⟨hgiven, hkept⟩
  · rintro ⟨hgiven, hkept⟩
    simp only [← h.mem_iff] at hgiven hkept
    exact ⟨hgiven, hkept⟩

end Order

/-! ### Documents -/

lemma ofTable_eq_ok {t : Table} (ht : t.DistinctKeys) {c : Conventions} :
    ofTable t = .ok c ↔ Fit t.entries ∧ SettledBy {} t.entries c := by
  have hsorted := List.mergeSort_perm t.entries fun a b => a.key ≤ b.key
  rw [ofTable, foldlM_takeEntry ((hsorted.map Entry.key).nodup_iff.mpr ht), fit_perm hsorted, settledBy_perm hsorted]

lemma unfit_of_takeEntry {c : Conventions} {e : Entry} {err : LoadError} (h : takeEntry c e = .error err) :
    ∃ fault span, err = .unfit fault span := by
  rw [takeEntry] at h
  split at h
  · cases h
    exact ⟨_, _, rfl⟩
  next s _ =>
    cases hset : c.set e.value s with
    | error fault =>
      rw [hset] at h
      cases h
      exact ⟨_, _, rfl⟩
    | ok d =>
      rw [hset] at h
      cases h

lemma unfit_of_foldlM {entries : List Entry} {c : Conventions} {err : LoadError}
    (h : entries.foldlM takeEntry c = .error err) : ∃ fault span, err = .unfit fault span := by
  induction entries generalizing c with
  | nil => cases h
  | cons e rest ih =>
    rw [List.foldlM_cons, bind_eq_error] at h
    obtain he | ⟨d, -, hrest⟩ := h
    · exact unfit_of_takeEntry he
    · exact ih hrest

def dateFormatIn (t : Table) : String :=
  match (t.find? "date-format").map Entry.value with
  | some (.string format) => format
  | _ => dateFormat {}

lemma dateFormat_of_settledBy {t : Table} {c : Conventions} (h : SettledBy {} t.entries c) :
    c.dateFormat = dateFormatIn t := by
  rw [dateFormatIn]
  cases he : t.find? "date-format" with
  | none =>
    have hnone := List.find?_eq_none.mp he
    have hkept := h.kept .dateFormat fun e hmem heq => hnone e hmem (decide_eq_true heq)
    simpa [Setting.valueIn] using hkept
  | some e =>
    have hkey := List.find?_some he
    have hgiven := h.given e (List.mem_of_find?_eq_some he) .dateFormat (of_decide_eq_true hkey)
    simp [← hgiven, Setting.valueIn]

section Parse

variable {read : String → Checked Table} {f : DateFormatter} {text format : String} {c : Conventions}

lemma checkDateFormat_eq_ok {d : Conventions} :
    checkDateFormat f c = .ok d ↔ (∀ item ∈ f.items c.dateFormat, f.isError item = false) ∧ c = d := by
  rw [checkDateFormat, ← f.hasError_eq_false]
  split <;> simp [*]

lemma checkDateFormat_eq_error {err : LoadError} :
    checkDateFormat f c = .error err ↔
      (∃ item ∈ f.items c.dateFormat, f.isError item = true) ∧ .dateFormat c.dateFormat = err := by
  rw [checkDateFormat, ← f.hasError_eq_true]
  split <;> simp [*]

lemma parseBy_eq_ok : parseBy read f text = .ok c ↔
    ∃ t, read text = .ok t ∧ ofTable t = .ok c ∧ ∀ item ∈ f.items c.dateFormat, f.isError item = false := by
  rw [parseBy]
  cases hdocument : read text with
  | error cause => simp
  | ok t => simp [bind_eq_ok, checkDateFormat_eq_ok]

lemma parseBy_eq_dateFormat : parseBy read f text = .error (.dateFormat format) ↔
    ∃ t c, read text = .ok t ∧ ofTable t = .ok c ∧ c.dateFormat = format ∧
      ∃ item ∈ f.items format, f.isError item = true := by
  rw [parseBy]
  cases hdocument : read text with
  | error cause => simp
  | ok t =>
    have hofTable : ofTable t ≠ .error (.dateFormat format) := fun h => by
      obtain ⟨_, _, hunfit⟩ := unfit_of_foldlM h
      cases hunfit
    simp only [bind_eq_error, hofTable, false_or, checkDateFormat_eq_error, Except.ok.injEq, LoadError.dateFormat.injEq]
    constructor
    · rintro ⟨c, hc, hitem, rfl⟩
      exact ⟨t, c, rfl, hc, rfl, hitem⟩
    · rintro ⟨_, c, rfl, hc, rfl, hitem⟩
      exact ⟨c, hc, hitem, rfl⟩

end Parse

lemma indent_of_settledBy {entries : List Entry} {c : Conventions} (hfit : Fit entries) (h : SettledBy {} entries c) :
    c.indent = .tab ∨ ∃ width, Indent.IsWidth width ∧ c.indent = .spaces width := by
  by_cases hgiven : ∃ e ∈ entries, e.key = Setting.indent.key
  · obtain ⟨e, hmem, hkey⟩ := hgiven
    obtain ⟨s, hs, hadmits⟩ := hfit e hmem
    obtain rfl := Setting.key_injective (hkey.symm.trans hs)
    rw [← h.given e hmem .indent hkey] at hadmits
    obtain ⟨indent⟩ := c
    cases indent with
    | tab => exact .inl rfl
    | spaces n =>
      rcases hadmits with htab | ⟨width, h₁, h₈, hwidth⟩
      · cases htab
      · obtain rfl : n = width := Int.ofNat_inj.mp (Value.integer.inj hwidth)
        exact .inr ⟨n, ⟨h₁, h₈⟩, rfl⟩
  · have hdefault := h.kept .indent fun e hmem hkey => hgiven ⟨e, hmem, hkey⟩
    obtain ⟨indent⟩ := c
    cases indent with
    | tab => cases hdefault
    | spaces n =>
      obtain rfl : n = 4 := Int.ofNat_inj.mp (Value.integer.inj hdefault)
      exact .inr ⟨4, by decide, rfl⟩

/-- The reader and the formatter are arbitrary, as long as the reader refuses a key that is given twice. -/
theorem parseBy_accepts {read : String → Checked Table} (hread : ReadsDistinctKeys read) (f : DateFormatter)
    (text : String) :
    ((∃ c, parseBy read f text = .ok c) ↔
      ∃ t, read text = .ok t ∧ Fit t.entries ∧ ∀ item ∈ f.items (dateFormatIn t), f.isError item = false) ∧
    (∀ format, parseBy read f text = .error (.dateFormat format) ↔
      ∃ t, read text = .ok t ∧ Fit t.entries ∧ dateFormatIn t = format ∧
        ∃ item ∈ f.items format, f.isError item = true) ∧
    ∀ c, parseBy read f text = .ok c → ∃ t, read text = .ok t ∧ SettledBy {} t.entries c ∧
      (c.indent = .tab ∧ c.indent.unit = "\t" ∨
        ∃ width, 1 ≤ width ∧ width ≤ 8 ∧ c.indent = .spaces width ∧
          c.indent.unit = String.ofList (List.replicate width ' ')) := by
  refine ⟨⟨?_, ?_⟩, fun format => ⟨?_, ?_⟩, ?_⟩
  · rintro ⟨c, h⟩
    obtain ⟨t, ht, hc, hitems⟩ := parseBy_eq_ok.mp h
    obtain ⟨hfit, hsettled⟩ := (ofTable_eq_ok (hread text t ht)).mp hc
    exact ⟨t, ht, hfit, dateFormat_of_settledBy hsettled ▸ hitems⟩
  · rintro ⟨t, ht, hfit, hitems⟩
    obtain ⟨c, hsettled⟩ := exists_settledBy (hread text t ht) hfit {}
    have hc := (ofTable_eq_ok (hread text t ht)).mpr ⟨hfit, hsettled⟩
    exact ⟨c, parseBy_eq_ok.mpr ⟨t, ht, hc, dateFormat_of_settledBy hsettled ▸ hitems⟩⟩
  · intro h
    obtain ⟨t, c, ht, hc, rfl, hitem⟩ := parseBy_eq_dateFormat.mp h
    obtain ⟨hfit, hsettled⟩ := (ofTable_eq_ok (hread text t ht)).mp hc
    exact ⟨t, ht, hfit, (dateFormat_of_settledBy hsettled).symm, hitem⟩
  · rintro ⟨t, ht, hfit, hformat, hitem⟩
    obtain ⟨c, hsettled⟩ := exists_settledBy (hread text t ht) hfit {}
    have hc := (ofTable_eq_ok (hread text t ht)).mpr ⟨hfit, hsettled⟩
    exact parseBy_eq_dateFormat.mpr ⟨t, c, ht, hc, (dateFormat_of_settledBy hsettled).trans hformat, hitem⟩
  · intro c h
    obtain ⟨t, ht, hc, -⟩ := parseBy_eq_ok.mp h
    obtain ⟨hfit, hsettled⟩ := (ofTable_eq_ok (hread text t ht)).mp hc
    refine ⟨t, ht, hsettled, ?_⟩
    rcases indent_of_settledBy hfit hsettled with htab | ⟨width, hwidth, hspaces⟩
    · exact .inl ⟨htab, by rw [htab]; rfl⟩
    · exact .inr ⟨width, hwidth.1, hwidth.2, hspaces, by rw [hspaces, Indent.unit, if_pos hwidth]⟩

theorem parseBy_accepts_unsorted :
    ReadsDistinctKeys Table.ofText ∧
      ∃ c, parseBy Table.ofText DateFormat.formatter "indent = \"tab\"\nfile-extension = \"txt\"" = .ok c ∧
        Setting.indent.valueIn c = .string "tab" ∧ c.fileExtension = "txt" := by
  have hread : (Table.ofText "indent = \"tab\"\nfile-extension = \"txt\"").toOption.map
      (fun t => t.entries.map fun e => (e.key, (asString e.value).toOption)) =
        some [("indent", some "tab"), ("file-extension", some "txt")] := by
    decide +kernel
  obtain ⟨t, htable, hentries⟩ := Option.map_eq_some_iff.mp hread
  have htable := toOption_eq_some.mp htable
  obtain ⟨indent, _, hcons, hindent, hentries⟩ := List.map_eq_cons_iff.mp hentries
  obtain ⟨extension, _, rfl, hextension, hentries⟩ := List.map_eq_cons_iff.mp hentries
  obtain rfl := List.map_eq_nil_iff.mp hentries
  obtain ⟨hindent, htab⟩ := Prod.mk.inj hindent
  obtain ⟨hextension, htxt⟩ := Prod.mk.inj hextension
  have htab := asString_eq_ok.mp (toOption_eq_some.mp htab)
  have htxt := asString_eq_ok.mp (toOption_eq_some.mp htxt)
  have hfit : Fit t.entries := by
    rw [hcons]
    simp only [Fit, List.forall_mem_cons]
    exact ⟨⟨.indent, hindent, .inl htab⟩, ⟨.fileExtension, hextension, "txt", htxt⟩, List.forall_mem_nil _⟩
  have hformat : dateFormatIn t = "%-m/%-d/%y" := by
    simp [dateFormatIn, Table.find?, hcons, hindent, hextension]
  have hitems : DateFormat.formatter.hasError "%-m/%-d/%y" = false := by decide +kernel
  obtain ⟨haccepts, -, hvalues⟩ := parseBy_accepts readsDistinctKeys_ofText DateFormat.formatter
    "indent = \"tab\"\nfile-extension = \"txt\""
  obtain ⟨c, hc⟩ := haccepts.mpr ⟨t, htable, hfit, hformat ▸ DateFormat.formatter.hasError_eq_false.mp hitems⟩
  obtain ⟨_, ht, hsettled, -⟩ := hvalues c hc
  cases htable.symm.trans ht
  rw [hcons] at hsettled
  refine ⟨readsDistinctKeys_ofText, c, hc, ?_, ?_⟩
  · rw [hsettled.given indent List.mem_cons_self .indent hindent, htab]
  · have hgiven := hsettled.given extension (List.mem_cons_of_mem _ List.mem_cons_self) .fileExtension hextension
    exact Value.string.inj (hgiven.trans htxt)

end SwiftSource.Conventions
