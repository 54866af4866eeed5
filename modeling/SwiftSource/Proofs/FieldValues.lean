import SwiftSource.Declaration.Member
import SwiftSource.Proofs.Script.Layout

/-! How the value of a field is printed: as the body of a getter or behind `=`. Whether a field is computed decides,
but for constants in enumerations: those are cases, and a case has no getter. -/

namespace SwiftSource

namespace Field

def header (f : Field) (parent : Option Kind) (w : Writer) : String :=
  w.added (fun v => v.fieldDocumentation f.heading.description) ++ w.indentation ++
    if parent = some .enumType ∧ ¬f.isMutable then "case " ++ f.name
    else
      String.join ((w.orderedModifiers f.heading.modifiers).map fun x => x.keyword ++ " ") ++
        f.heading.kind.keyword ++ " " ++ f.name ++ f.type.elim "" fun type => ": " ++ type.text

def getterText (body : Fragment) (w : Writer) : String :=
  " \x7b\n" ++ w.indent.indentation ++ w.indent.added body.print ++
    "\n" ++ (body.print w.indent).unindent.indentation ++ "\x7d"

def valueText (body : Fragment) (w : Writer) : String := " =" ++ w.added (Fragment.printFrom body false)

lemma getterText_ne_valueText (body : Fragment) (w : Writer) : getterText body w ≠ valueText body w := by
  intro h
  have hlists := congrArg String.toList h
  simp [getterText, valueText] at hlists

lemma joined_signature (f : Field) (keyword : Kind) :
    Token.joined true (f.signature keyword) =
      keyword.keyword ++ " " ++ f.name ++ f.type.elim "" fun type => ": " ++ type.text := by
  rw [signature]
  cases f.type with
  | none => simp [Token.joined, Token.written, String.append_assoc]
  | some type =>
    change keyword.keyword ++ (" " ++ f.name ++ (":" ++ (" " ++ type.text ++ ""))) =
      keyword.keyword ++ " " ++ f.name ++ (":" ++ " " ++ type.text)
    simp only [String.append_assoc, String.append_empty]

def PrintsGetterIn (f : Field) (parent : Option Kind) : Prop :=
  f.isComputedIn parent = true ∧ (parent = some .enumType → f.isMutable = true)

instance (f : Field) (parent : Option Kind) : Decidable (f.PrintsGetterIn parent) :=
  inferInstanceAs (Decidable (_ ∧ _))

lemma fieldDocumentation_eq_push (description : Option String) (w : Writer) :
    w.fieldDocumentation description = w.push (w.added fun v => v.fieldDocumentation description) := by
  cases description with
  | none => exact w.push_empty.symm
  | some d => rfl

section Header

variable (f : Field) {parent : Option Kind} (w : Writer)

lemma printCase_eq_push (h : parent = some .enumType ∧ ¬f.isMutable) :
    (w.fieldDocumentation f.heading.description).pushIndentation.tokens true
      [{ text := "case" }, { text := f.name }] = w.push (f.header parent w) := by
  rw [fieldDocumentation_eq_push, Writer.tokens_eq_push, Token.joined_pair, Writer.pushIndentation, Writer.push_push,
    Writer.push_push, header, if_pos h, show "case " = "case" ++ " " from rfl]
  simp only [String.append_assoc]
  rfl

lemma printDeclaration_eq_push (h : ¬(parent = some .enumType ∧ ¬f.isMutable)) :
    ((w.fieldDocumentation f.heading.description).modifiers f.heading.modifiers).tokens true
      (f.signature f.heading.kind) = w.push (f.header parent w) := by
  rw [fieldDocumentation_eq_push, Writer.tokens_eq_push, joined_signature, Writer.modifiers_eq_push, Writer.push_push,
    Writer.push_push, header, if_neg h]
  simp only [String.append_assoc]
  rfl

lemma printIn_eq (hp : parent ≠ some .protocolType) :
    f.printIn parent w =
      if f.PrintsGetterIn parent then printGetter f.initializer (w.push (f.header parent w))
      else printValue f.initializer (w.push (f.header parent w)) := by
  by_cases hcase : parent = some .enumType ∧ ¬f.isMutable
  · have hvalue : ¬f.PrintsGetterIn parent := fun hgetter => hcase.2 (hgetter.2 hcase.1)
    rw [if_neg hvalue, ← f.printCase_eq_push w hcase]
    cases f
    rw [printIn, if_pos hcase]
    rfl
  · have hgetter : f.PrintsGetterIn parent ↔ f.isComputedIn parent = true :=
      and_iff_left_of_imp fun _ henum => Decidable.of_not_not fun hconstant => hcase ⟨henum, hconstant⟩
    simp only [hgetter]
    rw [← f.printDeclaration_eq_push w hcase]
    cases f
    rw [printIn, if_neg hcase, if_neg hp]

end Header

lemma text_printValue (body : Fragment) (s : String) (w : Writer) :
    (printValue (some body) (w.push s)).text = w.text ++ s ++ valueText body w := by
  have h := body.appends_printFrom false w (w.text ++ s ++ " =")
  have hequals : (w.push s).token false { text := "=" } = { w with text := w.text ++ s ++ " =" } :=
    (w.push s).token_eq_push false { text := "=" }
  rw [printValue, hequals, h, valueText, ← String.append_assoc]

lemma text_printGetter (body : Fragment) (s : String) (w : Writer) :
    (printGetter (some body) (w.push s)).text = w.text ++ s ++ getterText body w := by
  have h := body.appends_print w.indent (w.text ++ s ++ " \x7b" ++ "\n" ++ w.indent.indentation)
  have hopened : (w.push s).openBrace.nextLine =
      { w.indent with text := w.text ++ s ++ " \x7b" ++ "\n" ++ w.indent.indentation } := rfl
  have hclosed : ∀ u : Writer, u.closeBrace.text = u.text ++ "\n" ++ u.unindent.indentation ++ "\x7d" := fun _ => rfl
  rw [printGetter, hopened, ← Fragment.print, h, hclosed, getterText, show " \x7b\n" = " \x7b" ++ "\n" from rfl]
  simp only [String.append_assoc]
  rfl

/-- A constant of an enumeration is a case, and behind a case stands a value even where the field was declared
computed. Everywhere else but in a protocol the field is asked. -/
theorem printIn_initializer (f : Field) (body : Fragment) (parent : Option Kind) (w : Writer)
    (hbody : f.initializer = some body) (hp : parent ≠ some .protocolType) :
    ((f.printIn parent w).text = w.text ++ f.header parent w ++ getterText body w ↔
      f.isComputedIn parent = true ∧ (parent = some .enumType → f.isMutable = true)) ∧
    ((f.printIn parent w).text = w.text ++ f.header parent w ++ valueText body w ↔
      ¬(f.isComputedIn parent = true ∧ (parent = some .enumType → f.isMutable = true))) := by
  have hprint := f.printIn_eq w hp
  have hne := getterText_ne_valueText body w
  rw [hbody] at hprint
  by_cases hgetter : f.PrintsGetterIn parent
  · rw [if_pos hgetter] at hprint
    rw [hprint, text_printGetter, String.append_right_inj, String.append_right_inj]
    exact ⟨iff_of_true rfl hgetter, iff_of_false hne (not_not_intro hgetter)⟩
  · rw [if_neg hgetter] at hprint
    rw [hprint, text_printValue, String.append_right_inj, String.append_right_inj]
    exact ⟨iff_of_false hne.symm hgetter, iff_of_true rfl hgetter⟩

theorem printIn_initializer_hash :
    let f := (((named "hash").typed .long).mutable).initialized (.ofText "return 5")
    let w : Writer := { level := 1 }
    (f.printIn (some .enumType) w).text = w.text ++ f.header (some .enumType) w ++ getterText (.ofText "return 5") w ∧
      getterText (.ofText "return 5") w = " \x7b\n        return 5\n    \x7d" := by
  intro f w
  have h := printIn_initializer f (.ofText "return 5") (some .enumType) w rfl (by decide)
  exact ⟨h.1.mpr (by decide), by decide⟩

theorem not_getter_of_isComputedIn :
    ¬∀ (f : Field) (body : Fragment) (parent : Option Kind) (w : Writer),
      f.initializer = some body → parent ≠ some .protocolType →
        ((f.printIn parent w).text = w.text ++ f.header parent w ++ getterText body w ↔
          f.isComputedIn parent = true) := by
  intro h
  have hx := (h ((named "x").computed.initialized (.ofText "5")) (.ofText "5") (some .enumType) {} rfl (by decide)).mpr rfl
  revert hx
  decide

end Field

end SwiftSource
