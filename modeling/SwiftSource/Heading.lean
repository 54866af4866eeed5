import SwiftSource.Kind
import SwiftSource.Naming
import SwiftSource.TypeName

/-!
What every declaration carries: its name, kind, modifiers and notes.
-/
namespace SwiftSource

structure Heading where
  name : String
  kind : Kind
  modifiers : ModifierSet := ∅
  description : Option String := none
  framework : Option String := none
  imports : Imports := ∅
  deriving DecidableEq

namespace Heading

def named (name : String) (kind : Kind) : Heading := { name, kind }

inductive Note where
  | modifier (m : Modifier)
  | modifiers (l : List Modifier)
  | description (text : String)
  | framework (name : String)
  | requires (name : String)
  | requiresAll (names : List String)

def addModifier (h : Heading) (m : Modifier) : Heading :=
  if h.kind.accepts m then { h with modifiers := h.modifiers.insert m } else h

def addImport (h : Heading) (name : String) : Heading := { h with imports := h.imports.insert name }

def note (h : Heading) : Note → Heading
  | .modifier m => h.addModifier m
  | .modifiers l => l.foldl addModifier h
  | .description text => { h with description := some text }
  | .framework name => { h with framework := some (Naming.clean name .type) }
  | .requires name => h.addImport name
  | .requiresAll names => names.foldl addImport h

end Heading

end SwiftSource
