import SwiftSource.Fragment

/-!
Fragments for conditionals, loops, switches and closures. Chains such as `if`, `else if`, `else` are
made by appending fragments.
-/
namespace SwiftSource

inductive ControlFlow where
  | guarded
  | conditional
  | otherwiseIf
  | otherwise
  | whileLoop
  | repeatLoop
  | membership
  | forLoop
  | switch
  deriving DecidableEq, Repr

namespace ControlFlow

def all : List ControlFlow :=
  [guarded, conditional, otherwiseIf, otherwise, whileLoop, repeatLoop, membership, forLoop, switch]

def keyword : ControlFlow → String
  | guarded => "guard"
  | conditional => "if"
  | otherwiseIf => "else if"
  | otherwise => "else"
  | whileLoop => "while"
  | repeatLoop => "repeat"
  | membership => "in"
  | forLoop => "for"
  | switch => "switch"

def instruction (c : ControlFlow) : Instruction := .ofText c.keyword

end ControlFlow

inductive Unsupported where
  | countedLoop
  deriving DecidableEq, Repr

namespace Unsupported

def message : Unsupported → String
  | countedLoop => "not implemented: generic for loops are not supported, use for_in"

end Unsupported

namespace Fragment

def braced (body : Fragment) : Fragment := [.openBrace, .nested body, .closeBrace]

def ofCondition (c : Condition) : Fragment := [.inline (.condition c)]

def optionalCondition : Option Condition → Fragment
  | none => []
  | some c => ofCondition c

def guardElse (condition : Option Condition) (body : Fragment) : Fragment :=
  ControlFlow.guarded.instruction :: optionalCondition condition ++
    ControlFlow.otherwise.instruction :: braced body

def ifThen (condition : Option Condition) (body : Fragment) : Fragment :=
  ControlFlow.conditional.instruction :: optionalCondition condition ++ braced body

def elseIf (condition : Option Condition) (body : Fragment) : Fragment :=
  ControlFlow.otherwiseIf.instruction :: optionalCondition condition ++ braced body

def otherwise (body : Fragment) : Fragment := ControlFlow.otherwise.instruction :: braced body

def whileDo (condition : Option Condition) (body : Fragment) : Fragment :=
  ControlFlow.whileLoop.instruction :: optionalCondition condition ++ braced body

def repeatWhile (condition : Condition) (body : Fragment) : Fragment :=
  ControlFlow.repeatLoop.instruction :: braced body ++
    ControlFlow.whileLoop.instruction :: ofCondition condition

def forIn (iterator iterable : String) (body : Fragment) : Fragment :=
  [ControlFlow.forLoop.instruction, .ofText iterator, ControlFlow.membership.instruction, .ofText iterable] ++
    braced body

def countedLoop (_iterator _iterable _body : Fragment) : Except Unsupported Fragment := .error .countedLoop

def switchCase (label : Fragment) (body : Fragment) : Fragment :=
  label ++ [.ofGlued ":", .indent, .nested body, .unindent]

def switchOn (value : String) (cases : List (String × Fragment)) (default : Option Fragment) : Fragment :=
  [ControlFlow.switch.instruction, .ofText value, .openBrace, .unindent] ++
    (cases.map fun (label, body) => .nested (switchCase [.ofText "case", .ofText label] body)) ++
    (default.toList.map fun body => .nested (switchCase [.ofText "default"] body)) ++
    [.indent, .closeBrace]

/-- `{ (parameters) throws -> Type in body }`; a closure without a return type returns `Void`. -/
def closure (parameters : String) (throws : Bool) (returnType : Option String) (body : Fragment) : Fragment :=
  [.ofText "\x7b", .ofText ("(" ++ parameters ++ ")")] ++ (if throws then [.ofText "throws"] else []) ++
    [.ofText "->", .ofText (returnType.getD "Void"), ControlFlow.membership.instruction, .indent, .nested body,
      .closeBrace]

def doCatch (body handler : Fragment) : Fragment :=
  .ofText "do" :: braced body ++ .ofText "catch" :: braced handler

end Fragment

end SwiftSource
