import SwiftSource.Operator
import SwiftSource.Parameter

/-!
Pieces of source text as values: fragments of instructions, conditions, and declarations with their
members. They contain one another, so their types are declared together.
-/
namespace SwiftSource

structure Token where
  text : String
  isGlued : Bool := false
  deriving DecidableEq, Repr

mutual

inductive Instruction where
  | token (t : Token)
  | openBrace
  | closeBrace
  | newLine
  | nextLine
  | indent
  | unindent
  | line (text : String)
  | inline (piece : Piece)
  | nested (body : List Instruction)

inductive Piece where
  | fragment (body : List Instruction)
  | comparison (c : Comparison)
  | clause (c : Clause)
  | condition (c : Condition)
  | parameter (p : Parameter)
  | field (f : Field)
  | method (m : Method)
  | type (t : TypeDeclaration)

structure Comparison where
  left : List Instruction
  comparator : Comparator
  right : List Instruction

structure Clause where
  comparison : Comparison
  connective : Option Connective

inductive ConditionElement where
  | clause (c : Clause)
  | group (c : Condition)

/-- What stands between `if` and its brace. The connective joins the whole to what precedes it. -/
structure Condition where
  elements : List ConditionElement
  connective : Option Connective

structure Field where
  heading : Heading
  type : Option TypeName
  initializer : Option (List Instruction)
  isComputed : Bool
  parentHint : Option Kind

structure Method where
  heading : Heading
  parameters : List Parameter
  returnType : Option TypeName
  body : List Instruction
  parentHint : Option Kind

structure TypeDeclaration where
  heading : Heading
  methods : List Method
  fields : List Field
  superType : Option TypeName
  protocols : List TypeName

end

abbrev Fragment := List Instruction

namespace Instruction

def isNested : Instruction → Bool
  | .nested _ => true
  | _ => false

def ofText (text : String) : Instruction := .token { text }

def ofGlued (text : String) : Instruction := .token { text, isGlued := true }

end Instruction

namespace Fragment

def ofText (text : String) : Fragment := [.ofText text]

/-- Whether a fragment holds nested fragments only, so that a token after them is still a first one. -/
def onlyNests (f : Fragment) : Bool := f.all Instruction.isNested

end Fragment

namespace Comparison

def toFragment (c : Comparison) : Fragment := c.left ++ .ofText c.comparator.symbol :: c.right

end Comparison

namespace Condition

def ofComparison (c : Comparison) : Condition :=
  { elements := [.clause { comparison := c, connective := none }], connective := none }

end Condition

inductive Declaration where
  | type (t : TypeDeclaration)
  | field (f : Field)
  | method (m : Method)
  | parameter (p : Parameter)

namespace Declaration

def heading : Declaration → Heading
  | .type t => t.heading
  | .field f => f.heading
  | .method m => m.heading
  | .parameter p => p.heading

def toPiece : Declaration → Piece
  | .type t => .type t
  | .field f => .field f
  | .method m => .method m
  | .parameter p => .parameter p

end Declaration

end SwiftSource
