import SwiftSource.Banner
import SwiftSource.Declaration.Imports
import SwiftSource.Layout
import SwiftSource.Path

/-!
Source files: a banner, the imports of all declarations, and the declarations.
-/
namespace SwiftSource

namespace Writer

def alone (w : Writer) (p : Piece) : String := (p.print w.fresh).text

def pieces (w : Writer) (l : List Piece) : Writer := (w.push ("\n\n".intercalate (l.map w.alone))).newLine

end Writer

inductive Overwrite where
  | always
  | ifMissing
  deriving DecidableEq, Repr

structure SourceFile where
  banner : Banner
  declarations : List Declaration := []
  /-- The conventions of the file are those of this writer; its text and level do not matter. -/
  writer : Writer := {}
  overwrite : Overwrite := .always

namespace SourceFile

def headings (f : SourceFile) : List Heading := f.declarations.map Declaration.heading

def requiredImports (f : SourceFile) : Imports :=
  SortedSet.unions (f.declarations.map Declaration.requiredImports)

def stem (f : SourceFile) : String :=
  (f.banner.fileName.or (f.headings.head?.map Heading.name)).getD "Generated"

def framework (f : SourceFile) : Option String :=
  f.banner.framework.or (f.headings.head?.bind Heading.framework)

def path (f : SourceFile) (base : String) : String := Path.join base (f.writer.conventions.fileName f.stem)

def render (f : SourceFile) : String :=
  let banner := { f.banner with framework := f.framework }
  (((f.writer.fresh.banner banner f.headings).imports f.requiredImports).pieces
    (f.declarations.map Declaration.toPiece)).text

end SourceFile

end SwiftSource
