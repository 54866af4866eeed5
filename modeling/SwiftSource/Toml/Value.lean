import SwiftSource.Toml.Cursor
import SwiftSource.Toml.Malformation
import SwiftSource.Toml.Moment

/-!
Values and tables of a document, and how its statements build them up. A table may be added to under its
own header, through dotted keys that made it, or by a header below it, and in no other way.
-/
namespace SwiftSource.Toml

/-- How a table came to be: under a header of its own or as the root, on the way to a header below it, on the way
of a dotted key, or between braces. -/
inductive Origin where
  | header
  | implied
  | dotted
  | inline
  deriving DecidableEq, Repr

mutual

inductive Value where
  | string (text : String)
  | integer (n : Int)
  | real (x : Real)
  | unrepresentable
  | boolean (b : Bool)
  | moment
  | array (items : List Value)
  | tables (items : List (List Entry))
  | table (origin : Origin) (entries : List Entry)

structure Entry where
  key : String
  keySpan : Span
  span : Span
  value : Value

end

mutual

def Value.isRepresentable : Value → Bool
  | .unrepresentable => false
  | .array items => areRepresentable items
  | .tables items => tablesAreRepresentable items
  | .table _ entries => entriesAreRepresentable entries
  | _ => true

def areRepresentable : List Value → Bool
  | [] => true
  | v :: rest => v.isRepresentable && areRepresentable rest

def Entry.isRepresentable : Entry → Bool
  | { value, .. } => value.isRepresentable

def entriesAreRepresentable : List Entry → Bool
  | [] => true
  | e :: rest => e.isRepresentable && entriesAreRepresentable rest

def tablesAreRepresentable : List (List Entry) → Bool
  | [] => true
  | entries :: rest => entriesAreRepresentable entries && tablesAreRepresentable rest

end

structure Key where
  name : String
  span : Span
  deriving DecidableEq, Repr

structure Table where
  origin : Origin
  entries : List Entry

namespace Table

def empty (origin : Origin) : Table := { origin, entries := [] }

def toValue (t : Table) : Value := .table t.origin t.entries

def find? (t : Table) (name : String) : Option Entry := t.entries.find? (·.key = name)

def erase (t : Table) (name : String) : Table := { t with entries := t.entries.filter (·.key ≠ name) }

def replace (t : Table) (name : String) (value : Value) : Table :=
  { t with entries := t.entries.map fun e => if e.key = name then { e with value } else e }

def add (t : Table) (key : Key) (span : Span) (value : Value) : Checked Table :=
  if (t.find? key.name).isSome then .error .misfit
  else .ok { t with entries := t.entries ++ [{ key := key.name, keySpan := key.span, span, value }] }

/-- Changes the table at the end of a path, with the tables on the way made where they are missing. A
dotted key may not pass through a table that has its own header. -/
def modifyAt (isDotted : Bool) (change : Table → Checked Table) : List Key → Table → Checked Table
  | [], t => change t
  | key :: rest, t =>
    match t.find? key.name with
    | none => do
      let inner ← modifyAt isDotted change rest (empty (if isDotted then .dotted else .implied))
      t.add key key.span inner.toValue
    | some e =>
      match e.value with
      | .table origin entries => do
        if origin = .inline ∨ (isDotted ∧ origin = .header) then throw .misfit
        else
          let inner ← modifyAt isDotted change rest { origin, entries }
          return t.replace key.name inner.toValue
      | .tables items => do
        let last ← Checked.ofOption items.getLast?
        let inner ← modifyAt isDotted change rest { origin := .header, entries := last }
        return t.replace key.name (.tables (items.dropLast ++ [inner.entries]))
      | _ => throw .misfit

def assign (t : Table) (path : List Key) (key : Key) (span : Span) (value : Value) : Checked Table :=
  modifyAt true
    (fun inner =>
      if path ≠ [] ∧ inner.origin ≠ .dotted then throw .misfit else inner.add key span value) path t

/-- Puts a table under a header. A table that only headers below it have implied so far is completed. -/
def define (fill : Table → Checked Table) (key : Key) (span : Span) (t : Table) : Checked Table :=
  match t.find? key.name with
  | none => do
    let inner ← fill (empty .header)
    t.add key span inner.toValue
  | some e =>
    match e.value with
    | .table .implied entries => do
      let inner ← fill { origin := .header, entries }
      (t.erase key.name).add key span inner.toValue
    | _ => throw .misfit

def append (inner : Table) (key : Key) (span : Span) (t : Table) : Checked Table :=
  match t.find? key.name with
  | none => t.add key span (.tables [inner.entries])
  | some e =>
    match e.value with
    | .tables items => return t.replace key.name (.tables (items ++ [inner.entries]))
    | _ => throw .misfit

end Table

end SwiftSource.Toml
