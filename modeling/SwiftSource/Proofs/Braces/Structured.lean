import SwiftSource.ControlFlow
import SwiftSource.Proofs.Braces

/-! Structured fragments: texts without braces, put together by nesting, splicing, conditions and control flow,
but without an opening or closing instruction of their own. Structured declarations hold no other fragments. -/

namespace SwiftSource

open Braces

mutual

def ConditionElement.operands : ConditionElement → List Fragment
  | .clause c => [c.comparison.left, c.comparison.right]
  | .group c => c.operands

/-- Both sides of every comparison in a condition, however deep in groups. -/
def Condition.operands : Condition → List Fragment
  | { elements, .. } => Condition.elementOperands elements

def Condition.elementOperands : List ConditionElement → List Fragment
  | [] => []
  | e :: rest => e.operands ++ Condition.elementOperands rest

end

namespace Fragment

inductive Structured : Fragment → Prop where
  | empty : Structured []
  | token {t : Token} (h : Free t.text) : Structured [.token t]
  | line {text : String} (h : Free text) : Structured [.line text]
  | newLine : Structured [.newLine]
  | nextLine : Structured [.nextLine]
  | nested {body : Fragment} (h : Structured body) : Structured [.nested body]
  | splice {f g : Fragment} (hf : Structured f) (hg : Structured g) : Structured (f ++ g)
  | comparison {c : Comparison} (hl : Structured c.left) (hr : Structured c.right) :
      Structured [.inline (.comparison c)]
  | clause {c : Clause} (hl : Structured c.comparison.left) (hr : Structured c.comparison.right) :
      Structured [.inline (.clause c)]
  | condition {c : Condition} (h : ∀ f ∈ c.operands, Structured f) : Structured (ofCondition c)
  | guardElse {c : Option Condition} {body : Fragment} (hc : ∀ x ∈ c, ∀ f ∈ x.operands, Structured f)
      (hb : Structured body) : Structured (guardElse c body)
  | ifThen {c : Option Condition} {body : Fragment} (hc : ∀ x ∈ c, ∀ f ∈ x.operands, Structured f)
      (hb : Structured body) : Structured (ifThen c body)
  | elseIf {c : Option Condition} {body : Fragment} (hc : ∀ x ∈ c, ∀ f ∈ x.operands, Structured f)
      (hb : Structured body) : Structured (elseIf c body)
  | otherwise {body : Fragment} (hb : Structured body) : Structured (otherwise body)
  | whileDo {c : Option Condition} {body : Fragment} (hc : ∀ x ∈ c, ∀ f ∈ x.operands, Structured f)
      (hb : Structured body) : Structured (whileDo c body)
  | repeatWhile {c : Condition} {body : Fragment} (hc : ∀ f ∈ c.operands, Structured f) (hb : Structured body) :
      Structured (repeatWhile c body)
  | forIn {iterator iterable : String} {body : Fragment} (hi : Free iterator) (hs : Free iterable)
      (hb : Structured body) : Structured (forIn iterator iterable body)
  | switchOn {value : String} {cases : List (String × Fragment)} {default : Option Fragment} (hv : Free value)
      (hl : ∀ c ∈ cases, Free c.1) (hc : ∀ c ∈ cases, Structured c.2) (hd : ∀ body ∈ default, Structured body) :
      Structured (switchOn value cases default)
  | closure {parameters : String} {throws : Bool} {returnType : Option String} {body : Fragment}
      (hp : Free parameters) (hr : ∀ t ∈ returnType, Free t) (hb : Structured body) :
      Structured (closure parameters throws returnType body)
  | doCatch {body handler : Fragment} (hb : Structured body) (hh : Structured handler) :
      Structured (doCatch body handler)

end Fragment

structure Heading.BraceFree (h : Heading) : Prop where
  name : Free h.name
  description : ∀ d ∈ h.description, Free d

structure Parameter.BraceFree (p : Parameter) : Prop where
  heading : p.heading.BraceFree
  type : Free p.type.keyword

structure Field.Structured (f : Field) : Prop where
  heading : f.heading.BraceFree
  type : ∀ t ∈ f.type, Free t.keyword
  initializer : ∀ body ∈ f.initializer, Fragment.Structured body

structure Method.Structured (m : Method) : Prop where
  heading : m.heading.BraceFree
  parameters : ∀ p ∈ m.parameters, p.BraceFree
  returnType : ∀ t ∈ m.returnType, Free t.keyword
  body : Fragment.Structured m.body

structure TypeDeclaration.Structured (t : TypeDeclaration) : Prop where
  heading : t.heading.BraceFree
  fields : ∀ f ∈ t.fields, f.Structured
  methods : ∀ m ∈ t.methods, m.Structured
  superType : ∀ s ∈ t.superType, Free s.keyword
  protocols : ∀ p ∈ t.protocols, Free p.keyword

end SwiftSource
