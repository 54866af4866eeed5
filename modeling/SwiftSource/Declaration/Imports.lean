import SwiftSource.Fragment

/-!
The modules that a declaration needs: its own, and those of every type name and member in it.
-/
namespace SwiftSource

def TypeName.importsOf (t : Option TypeName) : Imports :=
  match t with
  | none => ∅
  | some t => t.imports

namespace Parameter

def requiredImports (p : Parameter) : Imports := p.heading.imports ∪ p.type.imports

end Parameter

namespace Field

def requiredImports (f : Field) : Imports := f.heading.imports ∪ TypeName.importsOf f.type

end Field

namespace Method

def requiredImports (m : Method) : Imports :=
  m.heading.imports ∪ SortedSet.unions (m.parameters.map Parameter.requiredImports) ∪
    TypeName.importsOf m.returnType

end Method

namespace TypeDeclaration

def requiredImports (t : TypeDeclaration) : Imports :=
  t.heading.imports ∪ SortedSet.unions (t.methods.map Method.requiredImports) ∪
    SortedSet.unions (t.fields.map Field.requiredImports) ∪ SortedSet.unions (t.protocols.map TypeName.imports) ∪
      TypeName.importsOf t.superType

end TypeDeclaration

namespace Declaration

def requiredImports : Declaration → Imports
  | .type t => t.requiredImports
  | .field f => f.requiredImports
  | .method m => m.requiredImports
  | .parameter p => p.requiredImports

end Declaration

end SwiftSource
