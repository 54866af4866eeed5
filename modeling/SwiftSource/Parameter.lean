import SwiftSource.Heading

/-!
Parameters of methods and initializers.
-/
namespace SwiftSource

structure Parameter where
  heading : Heading
  type : TypeName
  deriving DecidableEq

namespace Parameter

def named (name : String) (type : TypeName) : Parameter :=
  { heading := .named (Naming.escape (Naming.clean name .member)) .parameter, type }

def name (p : Parameter) : String := p.heading.name

def isMutable (p : Parameter) : Bool := p.heading.kind = .mutable

def note (p : Parameter) (n : Heading.Note) : Parameter := { p with heading := p.heading.note n }

def mutable (p : Parameter) : Parameter := { p with heading := { p.heading with kind := .mutable } }

end Parameter

end SwiftSource
