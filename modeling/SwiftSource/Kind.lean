import SwiftSource.Modifier

/-!
The kinds of declarations, their keywords and the modifiers each may carry.
-/
namespace SwiftSource

inductive Kind where
  | classType
  | structType
  | enumType
  | protocolType
  | extensionType
  | constant
  | mutable
  | method
  | parameter
  deriving DecidableEq, Repr

namespace Kind

def all : List Kind :=
  [classType, structType, enumType, protocolType, extensionType, constant, mutable, method, parameter]

def keyword : Kind → String
  | classType => "class"
  | structType => "struct"
  | enumType => "enum"
  | protocolType => "protocol"
  | extensionType => "extension"
  | constant => "let"
  | mutable => "var"
  | method => "func"
  | parameter => ""

def label : Kind → String
  | classType => "class"
  | structType => "struct"
  | enumType => "enum"
  | protocolType => "protocol"
  | extensionType => "extension"
  | constant => "field"
  | mutable => "variable"
  | method => "method"
  | parameter => "parameter"

/-- Types take an access level, classes also `final`; only classes can be `open`. Members take
every modifier. -/
def accepts : Kind → Modifier → Bool
  | classType, m => m.isAccessLevel || m == .final
  | structType, m | enumType, m | protocolType, m | extensionType, m => m.isAccessLevel && m != .openAccess
  | constant, _ | mutable, _ | method, _ | parameter, _ => true

end Kind

end SwiftSource
