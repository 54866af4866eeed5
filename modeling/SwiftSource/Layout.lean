import SwiftSource.Documentation

/-!
Printing fragments, conditions and declarations into a writer. Main statement: a fragment spliced from
two is printed like the one and then the other, but for the space before the second.
-/
namespace SwiftSource

namespace Parameter

def tokens (p : Parameter) : List Token :=
  (if p.isMutable then [{ text := Kind.mutable.keyword }] else []) ++
    [{ text := p.name }, { text := ":", isGlued := true }, { text := p.type.text }]

def print (p : Parameter) (w : Writer) : Writer := w.tokens true p.tokens

end Parameter

namespace Field

def name (f : Field) : String := f.heading.name

def isMutable (f : Field) : Bool := f.heading.kind = .mutable

/-- Whether the initializer is printed as the body of a getter. A variable with an initializer in an
enumeration can be nothing else. -/
def isComputedIn (f : Field) (parent : Option Kind) : Bool :=
  f.isComputed || (f.isMutable && f.initializer.isSome && parent = some .enumType)

def signature (f : Field) (keyword : Kind) : List Token :=
  { text := keyword.keyword } :: { text := f.name } ::
    match f.type with
    | none => []
    | some type => [{ text := ":", isGlued := true }, { text := type.text }]

def accessors (f : Field) : Token :=
  { text := if f.isMutable then "\x7b get set \x7d" else "\x7b get \x7d" }

end Field

namespace Method

def name (m : Method) : String := m.heading.name

def isInit (m : Method) : Bool := m.name = "init"

def effects (m : Method) : List Modifier := (m.heading.modifiers.filter Modifier.isEffect).toList

def leadingModifiers (m : Method) : ModifierSet := m.heading.modifiers.filter fun x => !x.isEffect

def parameterClause (m : Method) (w : Writer) : String :=
  "(" ++ ", ".intercalate (m.parameters.map fun p => (p.print w.fresh).text) ++ ")"

def signature (m : Method) (w : Writer) : List Token :=
  (if m.isInit then [] else [{ text := Kind.method.keyword }]) ++
    { text := m.name } :: { text := m.parameterClause w, isGlued := true } ::
      (m.effects.map fun e => { text := e.keyword }) ++
        match m.returnType with
        | none => []
        | some type => [{ text := "->" }, { text := type.text }]

end Method

mutual

/-- Prints an instruction, told whether it is still the first of its fragment. -/
def Instruction.print : Instruction → Bool → Writer → Writer
  | .token t, isFirst, w => w.token isFirst t
  | .openBrace, _, w => w.openBrace
  | .closeBrace, _, w => w.closeBrace
  | .newLine, _, w => w.newLine
  | .nextLine, _, w => w.nextLine
  | .indent, _, w => w.indent
  | .unindent, _, w => w.unindent
  | .line text, _, w => w.line text
  | .inline piece, isFirst, w => piece.print (if isFirst then w else w.push " ")
  | .nested body, _, w => Fragment.printFrom body true w.nextLine

def Fragment.printFrom : List Instruction → Bool → Writer → Writer
  | [], _, w => w
  | i :: rest, isFirst, w => Fragment.printFrom rest (isFirst && i.isNested) (i.print isFirst w)

def Piece.print : Piece → Writer → Writer
  | .fragment body, w => Fragment.printFrom body true w
  | .comparison c, w => c.print w
  | .clause c, w => c.print w
  | .condition c, w => c.print w
  | .parameter p, w => p.print w
  | .field f, w => f.printIn f.parentHint w
  | .method m, w => m.printIn m.parentHint w
  | .type t, w => t.print w

def Comparison.print : Comparison → Writer → Writer
  | { left, comparator, right }, w =>
    Fragment.printFrom right false
      ((Fragment.printFrom left true w).token (Fragment.onlyNests left) { text := comparator.symbol })

def Clause.print : Clause → Writer → Writer
  | { comparison, connective := none }, w => comparison.print w
  | { comparison, connective := some c }, w => comparison.print (w.push c.joiner)

def ConditionElement.print : ConditionElement → Writer → Writer
  | .clause c, w => c.print w
  | .group c, w => c.printGroup w

def Condition.printGroup : Condition → Writer → Writer
  | { elements, connective := none }, w => (Condition.printElements elements (w.push "(")).push ")"
  | { elements, connective := some c }, w =>
    (Condition.printElements elements ((w.push c.joiner).push "(")).push ")"

def Condition.print : Condition → Writer → Writer
  | { elements, connective := none }, w => Condition.printElements elements w
  | { elements, connective := some c }, w => Condition.printElements elements ((w.push c.symbol).push " ")

def Condition.printElements : List ConditionElement → Writer → Writer
  | [], w => w
  | e :: rest, w => Condition.printElements rest (e.print w)

def Field.printValue : Option (List Instruction) → Writer → Writer
  | none, w => w
  | some body, w => Fragment.printFrom body false (w.token false { text := "=" })

def Field.printGetter : Option (List Instruction) → Writer → Writer
  | none, w => w
  | some body, w => (Fragment.printFrom body true w.openBrace.nextLine).closeBrace

def Field.printIn : Field → Option Kind → Writer → Writer
  | f@{ heading, initializer, .. }, parent, w =>
    let documented := w.fieldDocumentation heading.description
    if parent = some .enumType ∧ ¬ f.isMutable then
      Field.printValue initializer
        (documented.pushIndentation.tokens true [{ text := "case" }, { text := heading.name }])
    else if parent = some .protocolType then
      (documented.modifiers heading.modifiers).tokens true (f.signature .mutable ++ [f.accessors])
    else
      let declared := (documented.modifiers heading.modifiers).tokens true (f.signature heading.kind)
      if f.isComputedIn parent then Field.printGetter initializer declared
      else Field.printValue initializer declared

def Method.printIn : Method → Option Kind → Writer → Writer
  | m@{ heading, parameters, body, .. }, parent, w =>
    let prepared := (w.methodDocumentation heading.description parameters).modifiers m.leadingModifiers
    let declared := prepared.tokens true (m.signature prepared)
    if parent = some .protocolType then declared
    else (Fragment.printFrom body true declared.openBrace).closeBrace

def TypeDeclaration.printFields : List Field → Kind → Bool → Writer → Writer
  | [], _, _, w => w
  | f :: rest, kind, isFirst, w =>
    TypeDeclaration.printFields rest kind false (f.printIn (some kind) (if isFirst then w else w.newLine))

def TypeDeclaration.printMethods : List Method → Kind → Writer → Writer
  | [], _, w => w
  | m :: rest, kind, w => TypeDeclaration.printMethods rest kind (m.printIn (some kind) w.newLine).newLine

def TypeDeclaration.print : TypeDeclaration → Writer → Writer
  | { heading, methods, fields, superType, protocols }, w =>
    let prepared := (w.typeDocumentation heading.description).modifiers heading.modifiers
    let declared := prepared.tokens true [{ text := heading.kind.keyword }, { text := heading.name }]
    let opened := (declared.inheritance superType protocols).openBrace.newLine
    let filled := TypeDeclaration.printFields fields heading.kind true opened
    let spaced := if methods.isEmpty then filled else filled.newLine
    (TypeDeclaration.printMethods methods heading.kind spaced).closeBrace

end

namespace Fragment

def print (f : Fragment) (w : Writer) : Writer := printFrom f true w

theorem printFrom_append (a b : Fragment) (isFirst : Bool) (w : Writer) :
    printFrom (a ++ b) isFirst w = printFrom b (isFirst && onlyNests a) (printFrom a isFirst w) := by
  induction a generalizing isFirst w with
  | nil => simp [printFrom, onlyNests]
  | cons i rest ih => simp [printFrom, ih, onlyNests, Bool.and_assoc]

theorem printFrom_tokens (l : List Token) (isFirst : Bool) (w : Writer) :
    printFrom (l.map Instruction.token) isFirst w = w.tokens isFirst l := by
  induction l generalizing isFirst w with
  | nil => simp [printFrom, Writer.tokens]
  | cons t rest ih => simp [printFrom, Writer.tokens, ih, Instruction.print, Instruction.isNested]

end Fragment

theorem Comparison.print_eq_printFrom (c : Comparison) (w : Writer) :
    c.print w = Fragment.print c.toFragment w := by
  cases c
  simp [Comparison.print, Fragment.print, Comparison.toFragment, Fragment.printFrom_append, Fragment.printFrom,
    Instruction.ofText, Instruction.print, Instruction.isNested]

namespace Piece

def render (p : Piece) : String := (p.print {}).text

end Piece

namespace Fragment

def render (f : Fragment) : String := Piece.render (.fragment f)

end Fragment

namespace Declaration

def print (d : Declaration) (w : Writer) : Writer := d.toPiece.print w

def render (d : Declaration) : String := d.toPiece.render

end Declaration

end SwiftSource
