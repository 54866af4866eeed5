import SwiftSource.Calendar.DateFormat
import SwiftSource.Indent

/-!
The conventions that a generated file follows.
-/
namespace SwiftSource

structure Conventions where
  indent : Indent := .spaces 4
  generatorName : String := "Poet"
  dateFormat : String := "%-m/%-d/%y"
  stampsDate : Bool := true
  fileExtension : String := "swift"
  deriving DecidableEq, Repr

namespace Conventions

instance : Inhabited Conventions := ⟨{}⟩

/-- A date in the configured format, or in ISO 8601 form where that format gives no text. -/
def dateTextBy (f : DateFormatter) (c : Conventions) (d : Date) : String := (f.text? c.dateFormat d).getD d.iso

def dateText (c : Conventions) (d : Date) : String := c.dateTextBy DateFormat.formatter d

def fileName (c : Conventions) (stem : String) : String := stem ++ "." ++ c.fileExtension

end Conventions

end SwiftSource
