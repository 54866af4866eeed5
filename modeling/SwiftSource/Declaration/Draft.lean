import SwiftSource.Declaration.Member

/-!
Types in the making. A draft takes members one by one, drops those whose name or text is taken already,
and gives a structure a memberwise initializer in the end.
-/
namespace SwiftSource

namespace TypeDeclaration

def name (t : TypeDeclaration) : String := t.heading.name

def method? (t : TypeDeclaration) (name : String) : Option Method := t.methods.find? (·.name = name)

def field? (t : TypeDeclaration) (name : String) : Option Field := t.fields.find? (·.name = name)

end TypeDeclaration

structure TypeDraft where
  heading : Heading
  methods : List Method := []
  fields : List Field := []
  superType : Option TypeName := none
  protocols : List TypeName := []
  wantsInit : Bool

namespace TypeDraft

def named (name : String) (kind : Kind) : TypeDraft :=
  { heading := .named (Naming.clean name .type) kind, wantsInit := kind = .structType }

def note (t : TypeDraft) (n : Heading.Note) : TypeDraft := { t with heading := t.heading.note n }

def adopt (t : TypeDraft) (p : TypeName) : TypeDraft :=
  if p ∈ t.protocols then t else { t with protocols := t.protocols ++ [p] }

def addField (t : TypeDraft) (f : Field) : TypeDraft :=
  if t.fields.any (·.name = f.name) then t else { t with fields := t.fields ++ [f] }

def addMethod (t : TypeDraft) (m : Method) : TypeDraft :=
  if t.methods.any (·.name = m.name) then t else { t with methods := t.methods ++ [m] }

inductive Edit where
  | note (n : Heading.Note)
  | superType (t : TypeName)
  | protocol (p : TypeName)
  | protocols (l : List TypeName)
  | field (f : Field)
  | fields (l : List Field)
  | method (m : Method)
  | methods (l : List Method)
  | withoutDefaultInit

def edit (t : TypeDraft) : Edit → TypeDraft
  | .note n => t.note n
  | .superType s => { t with superType := some s }
  | .protocol p => t.adopt p
  | .protocols l => l.foldl adopt t
  | .field f => t.addField f
  | .fields l => l.foldl addField t
  | .method m => t.addMethod m
  | .methods l => l.foldl addMethod t
  | .withoutDefaultInit => { t with wantsInit := false }

def editAll (t : TypeDraft) (edits : List Edit) : TypeDraft := edits.foldl edit t

/-- Whether a field takes part in the memberwise initializer: it is as visible as its type and belongs to
its instances. -/
def initializes (t : TypeDraft) (f : Field) : Bool :=
  ModifierSet.SameAccess t.heading.modifiers f.heading.modifiers && .staticMember ∉ f.heading.modifiers

def initParameter (f : Field) (type : TypeName) : Parameter :=
  let p := Parameter.named f.name type
  match f.heading.description with
  | none => p
  | some description => p.note (.description description)

def addAssignment (t : TypeDraft) (init : Method) (f : Field) : Method :=
  match f.type with
  | none => init
  | some type =>
    if t.initializes f then
      (init.withParameter (initParameter f type)).withStatement
        (.ofText ("self." ++ f.name ++ " = " ++ f.name))
    else init

def memberwiseInit (t : TypeDraft) : Method :=
  let init := Method.named "init"
  let visible :=
    match ModifierSet.accessLevel t.heading.modifiers with
    | none => init
    | some access => init.note (.modifier access)
  t.fields.foldl t.addAssignment visible

def synthesizesInit (t : TypeDraft) : Bool := t.wantsInit && t.methods.all (·.name ≠ "init")

def build (t : TypeDraft) : TypeDeclaration :=
  { heading := t.heading
    methods := t.methods ++ if t.synthesizesInit then [t.memberwiseInit] else []
    fields := t.fields
    superType := t.superType
    protocols := t.protocols }

end TypeDraft

end SwiftSource
