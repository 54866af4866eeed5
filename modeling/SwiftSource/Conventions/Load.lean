import SwiftSource.Conventions
import SwiftSource.Store
import SwiftSource.Text.Escaped
import SwiftSource.Toml.Document

/-!
Conventions read from a TOML document, by whatever reader of documents and formatter of dates is at hand.
Every key is optional, no other key may occur, and a date format is looked at once all else is in order.
-/
namespace SwiftSource.Conventions

open Toml

inductive Setting where
  | indent
  | generatorName
  | dateFormat
  | stampsDate
  | fileExtension
  deriving DecidableEq, Repr

namespace Setting

def all : List Setting := [indent, generatorName, dateFormat, stampsDate, fileExtension]

def key : Setting → String
  | indent => "indent"
  | generatorName => "generator-name"
  | dateFormat => "date-format"
  | stampsDate => "add-generation-date"
  | fileExtension => "file-extension"

def ofKey? (name : String) : Option Setting := all.find? (·.key = name)

end Setting

inductive Fault where
  | unknownKey (name : String)
  | notAString (found : Value)
  | notABoolean (found : Value)
  | notAnIndent
  | widthOutOfRange (width : Nat)
  | unknownStyle (name : String)

namespace Fault

def describe : Value → String
  | .string text => "string " ++ Text.quote text
  | .integer n => "integer \x60" ++ toString n ++ "\x60"
  | .real x => "floating point \x60" ++ x.text ++ "\x60"
  | .unrepresentable => "number"
  | .boolean b => "boolean \x60" ++ (if b then "true" else "false") ++ "\x60"
  | .array _ | .tables _ => "sequence"
  | .moment | .table _ _ => "map"

def message : Fault → String
  | unknownKey name =>
    "unknown field \x60" ++ name ++ "\x60, expected one of " ++
      ", ".intercalate (Setting.all.map fun s => "\x60" ++ s.key ++ "\x60")
  | notAString found => "invalid type: " ++ describe found ++ ", expected a string"
  | notABoolean found => "invalid type: " ++ describe found ++ ", expected a boolean"
  | notAnIndent => "data did not match any variant of untagged enum IndentRepr"
  | widthOutOfRange width => "indent width must be between 1 and 8, got " ++ Nat.repr width
  | unknownStyle name => "unknown indent style '" ++ name ++ "'"

end Fault

inductive LoadError where
  | unreadable (path : String) (cause : StoreError)
  | malformed (cause : Malformation)
  | unfit (fault : Fault) (span : Span)
  | dateFormat (format : String)

namespace LoadError

def message : LoadError → String
  | unreadable path _ => "failed to read '" ++ path ++ "'"
  | malformed _ | unfit _ _ => "failed to parse format configuration"
  | dateFormat format => "invalid date format '" ++ format ++ "'"

def code : LoadError → Option String
  | unreadable _ _ => none
  | malformed _ | unfit _ _ => some "poet::config::parse_error"
  | dateFormat _ => some "poet::config::date_format"

def help : LoadError → Option String
  | dateFormat _ => some "use chrono strftime specifiers, e.g. '%-m/%-d/%y' or '%Y-%m-%d'"
  | _ => none

def labels : LoadError → List String
  | malformed .misfit | unfit _ _ => ["parse error here"]
  | unreadable _ _ | malformed .longKey | dateFormat _ => []

end LoadError

def asString : Value → Except Fault String
  | .string text => .ok text
  | v => .error (.notAString v)

def asBoolean : Value → Except Fault Bool
  | .boolean b => .ok b
  | v => .error (.notABoolean v)

/-- An indent is a width or the name of a style. A number beyond one byte is no width at all. -/
def asIndent : Value → Except Fault Indent
  | .integer n =>
    if n < 0 ∨ 255 < n then .error .notAnIndent
    else if Indent.IsWidth n.toNat then .ok (.spaces n.toNat)
    else .error (.widthOutOfRange n.toNat)
  | .string name => if name = "tab" then .ok .tab else .error (.unknownStyle name)
  | _ => .error .notAnIndent

def set (c : Conventions) (value : Value) : Setting → Except Fault Conventions
  | .indent => do return { c with indent := ← asIndent value }
  | .generatorName => do return { c with generatorName := ← asString value }
  | .dateFormat => do return { c with dateFormat := ← asString value }
  | .stampsDate => do return { c with stampsDate := ← asBoolean value }
  | .fileExtension => do return { c with fileExtension := ← asString value }

def takeEntry (c : Conventions) (e : Entry) : Except LoadError Conventions :=
  match Setting.ofKey? e.key with
  | none => .error (.unfit (.unknownKey e.key) e.keySpan)
  | some s => (c.set e.value s).mapError (.unfit · e.span)

/-- Takes over the keys of a document in ascending order, so that the first faulty one is told. -/
def ofTable (t : Table) : Except LoadError Conventions :=
  (t.entries.mergeSort fun a b => a.key ≤ b.key).foldlM takeEntry {}

def checkDateFormat (f : DateFormatter) (c : Conventions) : Except LoadError Conventions :=
  if f.hasError c.dateFormat then .error (.dateFormat c.dateFormat) else .ok c

def parseBy (read : String → Checked Table) (f : DateFormatter) (text : String) : Except LoadError Conventions :=
  match read text with
  | .error cause => .error (.malformed cause)
  | .ok t => ofTable t >>= checkDateFormat f

def parse (text : String) : Except LoadError Conventions := parseBy Table.ofText DateFormat.formatter text

def unnamedSource : String := "poet.toml"

def load (s : Store) (path : String) : Except LoadError Conventions :=
  match s.read path with
  | .error cause => .error (.unreadable path cause)
  | .ok text => parse text

end SwiftSource.Conventions
