import SwiftSource.Layout

/-!
Fields and methods, made from raw names and added to part by part.
-/
namespace SwiftSource

namespace Field

def named (name : String) : Field :=
  { heading := .named (Naming.escape (Naming.clean name .member)) .constant
    type := none
    initializer := none
    isComputed := false
    parentHint := none }

def note (f : Field) (n : Heading.Note) : Field := { f with heading := f.heading.note n }

def typed (f : Field) (type : TypeName) : Field := { f with type := some type }

def mutable (f : Field) : Field := { f with heading := { f.heading with kind := .mutable } }

def initialized (f : Field) (initializer : Fragment) : Field := { f with initializer := some initializer }

def computed (f : Field) : Field := { f with isComputed := true }

def within (f : Field) (parent : Kind) : Field := { f with parentHint := some parent }

end Field

namespace Method

def named (name : String) : Method :=
  { heading := .named (Naming.clean name .member) .method
    parameters := []
    returnType := none
    body := []
    parentHint := none }

def note (m : Method) (n : Heading.Note) : Method := { m with heading := m.heading.note n }

def withParameters (m : Method) (parameters : List Parameter) : Method :=
  { m with parameters := m.parameters ++ parameters }

def withParameter (m : Method) (p : Parameter) : Method := m.withParameters [p]

def returning (m : Method) (type : TypeName) : Method := { m with returnType := some type }

def withCode (m : Method) (code : Fragment) : Method := { m with body := m.body ++ code }

def withStatement (m : Method) (statement : Fragment) : Method := m.withCode [.nested statement]

def withLine (m : Method) (text : String) : Method := m.withCode [.line text]

def within (m : Method) (parent : Kind) : Method := { m with parentHint := some parent }

end Method

end SwiftSource
