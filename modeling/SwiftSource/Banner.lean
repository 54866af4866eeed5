import SwiftSource.Writer

/-!
The banner at the top of a file: comment lines that name the file, its framework, its contents and the
tool that made it.
-/
namespace SwiftSource

structure Banner where
  fileName : Option String := none
  framework : Option String := none
  origin : Option String := none
  stampsDate : Option Bool := none
  deriving DecidableEq

namespace Banner

def commentLine (text : String) : String := if text.isEmpty then "//" else "//  " ++ text

/-- A section of a banner ends with an empty comment line; a section without lines is left out. -/
def closed : List String → List String
  | [] => []
  | texts => texts ++ [""]

def contents (headings : List Heading) : List String :=
  match headings with
  | [] => []
  | headings => "Contains:" :: headings.map fun h => h.kind.label ++ " " ++ h.name

def stamp (b : Banner) (w : Writer) : String :=
  "Generated by " ++ w.conventions.generatorName ++
    if b.stampsDate.getD w.conventions.stampsDate then " on " ++ w.conventions.dateText w.today else ""

def texts (b : Banner) (w : Writer) (headings : List Heading) : List String :=
  "" :: (b.fileName.toList.map w.conventions.fileName ++ b.framework.toList.map (Naming.clean · .type)) ++
    "" :: closed b.origin.toList ++ closed (contents headings) ++ closed [b.stamp w]

end Banner

namespace Writer

def banner (w : Writer) (b : Banner) (headings : List Heading) : Writer :=
  (w.push ("\n".intercalate ((b.texts w headings).map Banner.commentLine))).newLine.newLine

end Writer

end SwiftSource
