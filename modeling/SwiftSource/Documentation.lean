import SwiftSource.Writer

/-!
Comments that document declarations.
-/
namespace SwiftSource.Writer

open Text

def descriptionLines (w : Writer) (level : Nat) (description : String) : String :=
  String.join ((lines description.toList).map fun l => w.indentationAt level ++ String.ofList l ++ "\n")

def blockComment (w : Writer) (body : String) : Writer :=
  w.push (w.indentation ++ "/**\n" ++ body ++ w.indentation ++ "*/\n")

def typeDocumentation (w : Writer) : Option String → Writer
  | none => w
  | some description => w.blockComment (w.descriptionLines (w.level + 1) description)

def fieldDocumentation (w : Writer) : Option String → Writer
  | none => w
  | some description => w.push (w.indentation ++ "// " ++ description ++ "\n")

def parameterEntry (w : Writer) (p : Parameter) : String :=
  "\n\n" ++ w.indentationAt (w.level + 1) ++ "  - " ++ p.name ++
    match p.heading.description with
    | none => ""
    | some description => ": " ++ description

def parameterSection (w : Writer) (parameters : List Parameter) : String :=
  w.indentationAt (w.level + 1) ++ "- Parameters:" ++ String.join (parameters.map w.parameterEntry) ++ "\n"

def methodDocumentation (w : Writer) (description : Option String) (parameters : List Parameter) : Writer :=
  match description, parameters with
  | none, [] => w
  | some description, [] => w.blockComment (w.descriptionLines (w.level + 1) description)
  | none, _ => w.blockComment (w.parameterSection parameters)
  | some description, _ =>
    w.blockComment (w.descriptionLines (w.level + 1) description ++ "\n" ++ w.parameterSection parameters)

end SwiftSource.Writer
