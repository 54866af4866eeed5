import SwiftSource.Proofs.Settings

/-! The date stamp of loaded conventions. A format may pass and still ask for a time of day, of which a date knows
nothing; such a format stamps every date in ISO 8601 form. -/

namespace SwiftSource

namespace DateFormatter

variable {f : DateFormatter} {needsTime : f.Item → Prop} {d : Date} {format : String}

/-- An item has no text for a date only if it stands for an error or needs a time of day, an instant or an offset. -/
def FailsOn (f : DateFormatter) (needsTime : f.Item → Prop) : Prop :=
  ∀ item d, f.itemText? item d = none ↔ f.isError item = true ∨ needsTime item

def AsksFor (f : DateFormatter) (needsTime : f.Item → Prop) (format : String) : Prop :=
  ∃ item ∈ f.items format, needsTime item

lemma textOf?_eq_none {items : List f.Item} : f.textOf? d items = none ↔ ∃ item ∈ items, f.itemText? item d = none := by
  induction items with
  | nil => simp [textOf?]
  | cons item rest ih =>
    rw [List.exists_mem_cons_iff, ← ih, textOf?]
    cases f.itemText? item d <;> cases f.textOf? d rest <;> simp

lemma text?_eq_none (hf : f.FailsOn needsTime) :
    f.text? format d = none ↔ (∃ item ∈ f.items format, f.isError item = true) ∨ f.AsksFor needsTime format := by
  simp only [text?, textOf?_eq_none, AsksFor, hf _ d, and_or_left, exists_or]

end DateFormatter

namespace DateFormat

lemma Item.text?_eq_none {item : Item} {d : Date} : item.text? d = none ↔ item = .timed := by
  cases item <;> simp [Item.text?]

lemma formatter_failsOn : formatter.FailsOn (· = some .timed) := by
  intro item d
  cases item with
  | none => exact iff_of_true rfl (.inl rfl)
  | some item =>
    change item.text? d = none ↔ false = true ∨ some item = some .timed
    rw [Item.text?_eq_none, Option.some.injEq, or_iff_right Bool.false_ne_true]

end DateFormat

namespace Conventions

open Toml

/-- Whatever reader and formatter are used: a format that passes is the one of the stamp unless it asks for a time, and
one that is refused would not have been. -/
theorem dateTextBy_of_parseBy (read : String → Checked Table) {f : DateFormatter} {needsTime : f.Item → Prop}
    (hf : f.FailsOn needsTime) (text : String) (d : Date) :
    (∀ c, parseBy read f text = .ok c →
      (¬f.AsksFor needsTime c.dateFormat ∧ f.text? c.dateFormat d = some (c.dateTextBy f d)) ∨
        (f.AsksFor needsTime c.dateFormat ∧ f.text? c.dateFormat d = none ∧ c.dateTextBy f d = d.iso)) ∧
    ∀ c : Conventions, parseBy read f text = .error (.dateFormat c.dateFormat) →
      f.text? c.dateFormat d = none ∧ c.dateTextBy f d = d.iso := by
  refine ⟨fun c h => ?_, fun c h => ?_⟩
  · obtain ⟨-, -, -, hitems⟩ := parseBy_eq_ok.mp h
    have hnone : f.text? c.dateFormat d = none ↔ f.AsksFor needsTime c.dateFormat := by
      rw [DateFormatter.text?_eq_none hf, or_iff_right]
      rintro ⟨item, hmem, herror⟩
      rw [hitems item hmem] at herror
      cases herror
    cases htext : f.text? c.dateFormat d with
    | none => exact .inr ⟨hnone.mp htext, rfl, by rw [dateTextBy, htext, Option.getD_none]⟩
    | some stamp =>
      have htime : ¬f.AsksFor needsTime c.dateFormat := by simp [← hnone, htext]
      exact .inl ⟨htime, by rw [dateTextBy, htext, Option.getD_some]⟩
  · obtain ⟨-, -, -, -, -, hitem⟩ := parseBy_eq_dateFormat.mp h
    have hnone := (DateFormatter.text?_eq_none (d := d) hf).mpr (.inl hitem)
    exact ⟨hnone, by rw [dateTextBy, hnone, Option.getD_none]⟩

theorem dateTextBy_of_parseBy_ordinal :
    DateFormat.formatter.FailsOn (· = some .timed) ∧
      parseBy Table.ofText DateFormat.formatter "date-format = \"%j\"" = .ok { dateFormat := "%j" } ∧
      DateFormat.formatter.text? "%j" Date.epoch =
        some (dateTextBy DateFormat.formatter { dateFormat := "%j" } Date.epoch) := by
  have hparse : parseBy Table.ofText DateFormat.formatter "date-format = \"%j\"" = .ok { dateFormat := "%j" } :=
    toOption_eq_some.mp (by decide +kernel)
  refine ⟨DateFormat.formatter_failsOn, hparse, ?_⟩
  have hstamp := (dateTextBy_of_parseBy Table.ofText DateFormat.formatter_failsOn _ Date.epoch).1 _ hparse
  rcases hstamp with ⟨-, htext⟩ | ⟨-, hnone, -⟩
  · exact htext
  · exact absurd hnone (by decide +kernel)

theorem not_dated_of_parseBy :
    ¬∀ (text : String) (c : Conventions) (d : Date), parseBy Table.ofText DateFormat.formatter text = .ok c →
      DateFormat.formatter.text? c.dateFormat d = some (c.dateTextBy DateFormat.formatter d) := by
  intro h
  have hparse : parseBy Table.ofText DateFormat.formatter "date-format = \"%H\"" = .ok { dateFormat := "%H" } :=
    toOption_eq_some.mp (by decide +kernel)
  have hnone : DateFormat.formatter.text? "%H" Date.epoch = none := by decide +kernel
  cases hnone.symm.trans (h _ _ Date.epoch hparse)

end Conventions

end SwiftSource
