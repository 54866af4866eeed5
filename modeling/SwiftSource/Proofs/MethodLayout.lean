import SwiftSource.Declaration.Member
import SwiftSource.Proofs.ModifierOrder
import SwiftSource.Proofs.Notes
import SwiftSource.Proofs.Script.LaysOut

/-! The layout of methods whose body is a list of statements. A declaration stands in one line, effects behind the
parameters, and each statement on a line of its own, whether it was added as a fragment or as a text. -/

namespace SwiftSource

open Steps

inductive Statement where
  | fragment (f : Fragment)
  | line (text : String)

namespace Statement

def instruction : Statement → Instruction
  | fragment f => .nested f
  | line text => .line text

def text (w : Writer) : Statement → String
  | fragment f => w.added f.print
  | line text => text

def print (w : Writer) : Statement → Writer
  | fragment f => f.print w.nextLine
  | line text => w.line text

lemma laysOut {w : Writer} {isFirst : Bool} {s : Statement} (h : Balanced s.instruction.changes) :
    Fragment.LaysOut w [s.instruction] isFirst ("\n" ++ w.indentation ++ s.text w) := by
  cases s with
  | fragment f => exact Fragment.laysOut_nested h
  | line text => exact Script.laysOut_nextLine.append (Script.laysOut_text text)

end Statement

namespace Writer

variable (w : Writer)

def methodComment (description : Option String) (parameters : List Parameter) : String :=
  let described := description.elim "" (w.descriptionLines (w.level + 1))
  let gap := if description.isSome && !parameters.isEmpty then "\n" else ""
  let entry (p : Parameter) :=
    "\n\n" ++ w.indentationAt (w.level + 1) ++ "  - " ++ p.name ++ p.heading.description.elim "" (": " ++ ·)
  let listed :=
    if parameters.isEmpty then ""
    else w.indentationAt (w.level + 1) ++ "- Parameters:" ++ String.join (parameters.map entry) ++ "\n"
  if description.isNone && parameters.isEmpty then ""
  else w.indentation ++ "/**\n" ++ described ++ gap ++ listed ++ w.indentation ++ "*/\n"

lemma methodDocumentation_eq_push (description : Option String) (parameters : List Parameter) :
    w.methodDocumentation description parameters = w.push (w.methodComment description parameters) := by
  have hentry : w.parameterEntry = fun p => "\n\n" ++ w.indentationAt (w.level + 1) ++ "  - " ++ p.name ++
      p.heading.description.elim "" (": " ++ ·) := by
    funext p
    rw [parameterEntry]
    cases p.heading.description <;> rfl
  cases description <;> cases parameters <;>
    simp [methodDocumentation, methodComment, blockComment, parameterSection, hentry, String.append_assoc]

end Writer

namespace Method

inductive Edit where
  | note (n : Heading.Note)
  | parameter (p : Parameter)
  | parameters (l : List Parameter)
  | returning (type : TypeName)
  | statement (s : Statement)
  | within (parent : Kind)

def edit (m : Method) : Edit → Method
  | .note n => m.note n
  | .parameter p => m.withParameter p
  | .parameters l => m.withParameters l
  | .returning type => m.returning type
  | .statement (.fragment f) => m.withStatement f
  | .statement (.line text) => m.withLine text
  | .within parent => m.within parent

def editAll (m : Method) (edits : List Edit) : Method := edits.foldl edit m

namespace Edit

def notesOf : Edit → List Heading.Note
  | .note n => [n]
  | _ => []

def parametersOf : Edit → List Parameter
  | .parameter p => [p]
  | .parameters l => l
  | _ => []

def returnType? : Edit → Option TypeName
  | .returning type => some type
  | _ => none

def statementsOf : Edit → List Statement
  | .statement s => [s]
  | _ => []

def parentHint? : Edit → Option Kind
  | .within parent => some parent
  | _ => none

end Edit

lemma edit_eq (m : Method) (e : Edit) :
    m.edit e =
      { heading := e.notesOf.foldl Heading.note m.heading
        parameters := m.parameters ++ e.parametersOf
        returnType := e.returnType?.or m.returnType
        body := m.body ++ e.statementsOf.map Statement.instruction
        parentHint := e.parentHint?.or m.parentHint } := by
  obtain ⟨heading, parameters, returnType, body, parentHint⟩ := m
  rcases e with n | p | l | type | (f | text) | parent <;>
    simp [edit, note, withParameter, withParameters, returning, withStatement, withLine, withCode, within,
      Edit.notesOf, Edit.parametersOf, Edit.returnType?, Edit.statementsOf, Edit.parentHint?, Statement.instruction]

lemma editAll_eq (m : Method) (edits : List Edit) :
    m.editAll edits =
      { heading := (edits.flatMap Edit.notesOf).foldl Heading.note m.heading
        parameters := m.parameters ++ edits.flatMap Edit.parametersOf
        returnType := (edits.filterMap Edit.returnType?).getLast?.or m.returnType
        body := m.body ++ (edits.flatMap Edit.statementsOf).map Statement.instruction
        parentHint := (edits.filterMap Edit.parentHint?).getLast?.or m.parentHint } := by
  induction edits generalizing m with
  | nil =>
    cases m
    simp [editAll]
  | cons e rest ih =>
    have hrest := ih (m.edit e)
    rw [editAll] at hrest ⊢
    rw [List.foldl_cons, hrest, edit_eq]
    simp only [List.flatMap_cons, List.foldl_append, List.map_append, List.append_assoc, getLast?_filterMap_cons,
      Option.or_assoc]

section Declaration

variable (m : Method)

lemma effects_eq :
    m.effects = (if .throws ∈ m.heading.modifiers then [.throws] else []) ++
      if .rethrows ∈ m.heading.modifiers then [.rethrows] else [] := by
  apply SortedSet.eq_of_mem_iff
  · exact SortedSet.ascending _
  · split <;> split <;> decide
  · intro a
    have heffect : a.isEffect = true ↔ a = .throws ∨ a = .rethrows := by
      rw [Modifier.isEffect, Bool.or_eq_true, beq_iff_eq, beq_iff_eq]
    have hmem : a ∈ m.effects ↔ a ∈ m.heading.modifiers ∧ a.isEffect = true := SortedSet.mem_filter
    rw [hmem, heffect]
    grind

def afterName : String :=
  "(" ++ ", ".intercalate (m.parameters.map fun p => Piece.render (.parameter p)) ++ ")" ++
    (if .throws ∈ m.heading.modifiers then " throws" else "") ++
    (if .rethrows ∈ m.heading.modifiers then " rethrows" else "") ++
    m.returnType.elim "" fun type => " -> " ++ type.text

def declaration : String := (if m.name = "init" then "" else "func ") ++ m.name ++ m.afterName

lemma parameterClause_eq_render (w : Writer) :
    m.parameterClause w = "(" ++ ", ".intercalate (m.parameters.map fun p => Piece.render (.parameter p)) ++ ")" := by
  have h : ∀ p : Parameter, Piece.render (.parameter p) = p.text := by
    intro p
    rw [Piece.render, Piece.print, p.print_eq_push]
    exact String.empty_append
  simp only [parameterClause_eq, h]

lemma joined_effects :
    Token.joined false (m.effects.map fun e => { text := e.keyword }) =
      (if .throws ∈ m.heading.modifiers then " throws" else "") ++
        if .rethrows ∈ m.heading.modifiers then " rethrows" else "" := by
  rw [effects_eq]
  split <;> split <;> rfl

lemma joined_result :
    Token.joined false (match m.returnType with
      | none => []
      | some type => [{ text := "->" }, { text := type.text }]) =
        m.returnType.elim "" fun type => " -> " ++ type.text := by
  cases m.returnType with
  | none => rfl
  | some type =>
    change " ->" ++ (" " ++ type.text ++ "") = " ->" ++ " " ++ type.text
    rw [String.append_empty, String.append_assoc]

lemma joined_signature (w : Writer) : Token.joined true (m.signature w) = m.declaration := by
  have htail : m.parameterClause w ++ (Token.joined false (m.effects.map fun e => { text := e.keyword }) ++
      Token.joined false (match m.returnType with
        | none => []
        | some type => [{ text := "->" }, { text := type.text }])) = m.afterName := by
    rw [joined_effects, joined_result, parameterClause_eq_render, afterName, ← String.append_assoc,
      ← String.append_assoc]
  rw [signature, declaration, List.append_assoc, List.cons_append, List.cons_append, ← htail, ← Token.joined_append]
  by_cases hinit : m.name = "init"
  · rw [if_pos hinit, if_pos (show m.isInit = true from decide_eq_true hinit), String.empty_append]
    rfl
  · rw [if_neg hinit, if_neg (show ¬m.isInit = true from fun h => hinit (of_decide_eq_true h)), String.append_assoc,
      show "func " = "func" ++ " " from rfl, String.append_assoc, ← String.append_assoc]
    rfl

end Declaration

section Layout

variable {m : Method} {w : Writer}

def documentation (m : Method) (w : Writer) : String := w.methodComment m.heading.description m.parameters

def bodyText (statements : List Statement) (w : Writer) : String :=
  " \x7b" ++ String.join (statements.map fun s => "\n" ++ w.inside.indentation ++ s.text w.inside) ++
    Fragment.closing w

lemma laysOut_documentation (m : Method) (w : Writer) :
    Script.LaysOut w (Script.methodDocumentation m.heading.description m.parameters) (m.documentation w) := by
  have htext : w.added (fun v => v.methodDocumentation m.heading.description m.parameters) = m.documentation w := by
    rw [Writer.added, Writer.methodDocumentation_eq_push]
    exact String.empty_append
  rw [← htext]
  refine Script.laysOut_of_run (fun _ => Script.methodDocumentation m.heading.description m.parameters)
    (fun v => v.methodDocumentation_eq_run _ _) ?_
  rw [Script.changes_methodDocumentation]
  exact balanced_nil

lemma laysOut_modifiers (s : ModifierSet) (w : Writer) :
    Script.LaysOut w (Script.modifiers w.modifierOrder s)
      (w.indentation ++ String.join ((w.orderedModifiers s).map fun x => x.keyword ++ " ")) :=
  ⟨balanced_nil, fun _ => (Writer.spells_indentation 0).append (Writer.spells_text _)⟩

lemma laysOut_body {statements : List Statement} (hb : ∀ s ∈ statements, Balanced s.instruction.changes) :
    Script.LaysOut w (Script.openBrace ++
      Script.ofFragment w.modifierOrder (statements.map Statement.instruction) true ++ Script.closeBrace)
      (bodyText statements w) := by
  have hstatements : Fragment.LaysOut w.inside (statements.map Statement.instruction) true
      (String.join (statements.map fun s => "\n" ++ w.inside.indentation ++ s.text w.inside)) :=
    Fragment.laysOut_all fun s hs _ => Statement.laysOut (hb s hs)
  have hinside : Script.LaysOut w
      (.deeper :: (Script.ofFragment w.modifierOrder (statements.map Statement.instruction) true ++ [.higher])) _ :=
    Script.LaysOut.inside hstatements
  have h := ((Script.laysOut_text " \x7b").append hinside).append Fragment.laysOut_closing
  rw [bodyText]
  simpa only [Script.openBrace, Script.closeBrace, List.append_assoc, List.cons_append, List.nil_append] using h

lemma laysOut {statements : List Statement} (parent : Option Kind)
    (hbody : m.body = statements.map Statement.instruction)
    (hb : ∀ s ∈ statements, Balanced s.instruction.changes) :
    Script.LaysOut w (Script.ofMethod w.modifierOrder m parent)
      (m.documentation w ++ (w.indentation ++
        String.join ((w.orderedModifiers m.leadingModifiers).map fun x => x.keyword ++ " ")) ++
        (m.declaration ++ if parent = some .protocolType then "" else bodyText statements w)) := by
  have hheader := (m.laysOut_documentation w).append (laysOut_modifiers m.leadingModifiers w)
  have hrest : Script.LaysOut w
      (if parent = some .protocolType then []
        else Script.openBrace ++ Script.ofFragment w.modifierOrder m.body true ++ Script.closeBrace)
      (if parent = some .protocolType then "" else bodyText statements w) := by
    split
    · exact Script.laysOut_nil
    · rw [hbody]
      exact laysOut_body hb
  have hline : Script.LaysOut w [.text (Token.joined true (m.signature {}))] m.declaration := by
    rw [joined_signature]
    exact Script.laysOut_text m.declaration
  have h := hheader.append (hline.append hrest)
  cases m
  rw [Script.ofMethod]
  exact h

end Layout

end Method

end SwiftSource
