import SwiftSource.Layout
import SwiftSource.Proofs.Script

/-! The operations of a writer as runs of scripts. -/

namespace SwiftSource

open Text

def Token.written (isFirst : Bool) (t : Token) : String :=
  if isFirst || t.isGlued then t.text else " " ++ t.text

def Token.joined (isFirst : Bool) : List Token → String
  | [] => ""
  | t :: rest => t.written isFirst ++ joined false rest

lemma Token.joined_append (l k : List Token) : joined false (l ++ k) = joined false l ++ joined false k := by
  induction l with
  | nil => rw [List.nil_append, joined, String.empty_append]
  | cons t rest ih => rw [List.cons_append, joined, joined, ih, String.append_assoc]

lemma Token.joined_pair (s t : String) : joined true [{ text := s }, { text := t }] = s ++ " " ++ t := by
  change s ++ (" " ++ t ++ "") = s ++ " " ++ t
  rw [String.append_empty, String.append_assoc]

namespace Script

def openBrace : Script := [.text " \x7b", .deeper]

def closeBrace : Script := [.higher, .text "\n", .indentation 0, .text "\x7d"]

def nextLine : Script := [.text "\n", .indentation 0]

def modifiers (order : List Modifier) (s : ModifierSet) : Script :=
  [.indentation 0,
    .text (String.join ((({ modifierOrder := order } : Writer).orderedModifiers s).map fun m => m.keyword ++ " "))]

def blockComment (body : Script) : Script :=
  [.indentation 0, .text "/**\n"] ++ body ++ [.indentation 0, .text "*/\n"]

def descriptionLines (description : String) : Script :=
  (lines description.toList).flatMap fun l => [.indentation 1, .text (String.ofList l ++ "\n")]

def typeDocumentation : Option String → Script
  | none => []
  | some description => blockComment (descriptionLines description)

def fieldDocumentation : Option String → Script
  | none => []
  | some description => [.indentation 0, .text ("// " ++ description ++ "\n")]

def parameterEntry (p : Parameter) : Script :=
  [.text "\n\n", .indentation 1,
    .text ("  - " ++ p.name ++ match p.heading.description with
      | none => ""
      | some description => ": " ++ description)]

def parameterSection (parameters : List Parameter) : Script :=
  [.indentation 1, .text "- Parameters:"] ++ parameters.flatMap parameterEntry ++ [.text "\n"]

def methodDocumentation (description : Option String) (parameters : List Parameter) : Script :=
  match description, parameters with
  | none, [] => []
  | some description, [] => blockComment (descriptionLines description)
  | none, _ => blockComment (parameterSection parameters)
  | some description, _ =>
    blockComment (descriptionLines description ++ .text "\n" :: parameterSection parameters)

end Script

def TypeName.inheritanceClause (superType : Option TypeName) (protocols : List TypeName) : String :=
  match superType.toList ++ protocols with
  | [] => ""
  | types => ": " ++ ", ".intercalate (types.map TypeName.text)

namespace Writer

variable (w : Writer)

lemma push_eq_run (s : String) : w.push s = w.run [.text s] := rfl

lemma pushIndentation_eq_run : w.pushIndentation = w.run [.indentation 0] := rfl

lemma newLine_eq_run : w.newLine = w.run [.text "\n"] := rfl

lemma nextLine_eq_run : w.nextLine = w.run Script.nextLine := rfl

lemma openBrace_eq_run : w.openBrace = w.run Script.openBrace := rfl

lemma closeBrace_eq_run : w.closeBrace = w.run Script.closeBrace := rfl

lemma token_eq_push (isFirst : Bool) (t : Token) : w.token isFirst t = w.push (t.written isFirst) := by
  rw [Token.written, token]
  split <;> simp only [push_push]

lemma tokens_eq_push (isFirst : Bool) (l : List Token) : w.tokens isFirst l = w.push (Token.joined isFirst l) := by
  induction l generalizing w isFirst with
  | nil => exact w.push_empty.symm
  | cons t rest ih => rw [tokens, ih, token_eq_push, push_push, Token.joined]

lemma tokens_eq_run (isFirst : Bool) (l : List Token) : w.tokens isFirst l = w.run [.text (Token.joined isFirst l)] :=
  w.tokens_eq_push isFirst l

lemma modifiers_eq_push (s : ModifierSet) :
    w.modifiers s = w.push (w.indentation ++ String.join ((w.orderedModifiers s).map fun m => m.keyword ++ " ")) := by
  rw [modifiers, pushIndentation, push_push]

lemma modifiers_eq_run (s : ModifierSet) : w.modifiers s = w.run (Script.modifiers w.modifierOrder s) := rfl

lemma inheritance_eq_push (superType : Option TypeName) (protocols : List TypeName) :
    w.inheritance superType protocols = w.push (TypeName.inheritanceClause superType protocols) := by
  rw [inheritance, TypeName.inheritanceClause]
  cases superType.toList ++ protocols with
  | nil => rw [push_empty]
  | cons => rfl

lemma spells_descriptionLines (description : String) :
    w.Spells (Script.descriptionLines description) (w.descriptionLines (w.level + 1) description) := by
  refine Spells.flatMap ?_ _
  intro l
  rw [String.append_assoc]
  exact (spells_indentation 1).append (spells_text _)

lemma spells_parameterEntry (p : Parameter) : w.Spells (Script.parameterEntry p) (w.parameterEntry p) := by
  have h := ((spells_text "\n\n").append (spells_indentation (w := w) 1)).append (spells_text ("  - " ++ p.name ++
    match p.heading.description with
    | none => ""
    | some description => ": " ++ description))
  cases hd : p.heading.description <;> simpa [parameterEntry, Script.parameterEntry, hd, String.append_assoc] using h

lemma spells_parameterSection (parameters : List Parameter) :
    w.Spells (Script.parameterSection parameters) (w.parameterSection parameters) :=
  (((spells_indentation 1).append (spells_text _)).append
    (Spells.flatMap w.spells_parameterEntry parameters)).append (spells_text "\n")

lemma blockComment_eq_run {s : Script} {body : String} (h : w.Spells s body) :
    w.blockComment body = w.run (Script.blockComment s) := by
  have hc := ((spells_indentation (w := w) 0).append (spells_text "/**\n")).append h |>.append
    ((spells_indentation 0).append (spells_text "*/\n"))
  rw [blockComment, String.append_assoc]
  exact (hc w rfl rfl rfl).symm

lemma typeDocumentation_eq_run (description : Option String) :
    w.typeDocumentation description = w.run (Script.typeDocumentation description) := by
  cases description with
  | none => rfl
  | some d => exact w.blockComment_eq_run (w.spells_descriptionLines d)

lemma fieldDocumentation_eq_run (description : Option String) :
    w.fieldDocumentation description = w.run (Script.fieldDocumentation description) := by
  cases description with
  | none => rfl
  | some d =>
    have h := (spells_indentation (w := w) 0).append (spells_text ("// " ++ d ++ "\n"))
    rw [fieldDocumentation, String.append_assoc, String.append_assoc, ← @String.append_assoc "// "]
    exact (h w rfl rfl rfl).symm

lemma methodDocumentation_eq_run (description : Option String) (parameters : List Parameter) :
    w.methodDocumentation description parameters =
      w.run (Script.methodDocumentation description parameters) := by
  have hp := w.spells_parameterSection parameters
  cases description with
  | none =>
    cases parameters with
    | nil => rfl
    | cons p rest => exact w.blockComment_eq_run hp
  | some d =>
    have hd := w.spells_descriptionLines d
    cases parameters with
    | nil => exact w.blockComment_eq_run hd
    | cons p rest =>
      apply w.blockComment_eq_run
      rw [String.append_assoc]
      exact hd.append ((spells_text "\n").append hp)

end Writer

end SwiftSource
