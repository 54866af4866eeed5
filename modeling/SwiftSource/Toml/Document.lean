import SwiftSource.Toml.Reader

/-!
Documents: the lines grouped under their headers, and the table that they make up.
-/
namespace SwiftSource.Toml

def fill (t : Table) : List Line → Checked Table
  | [] => return t
  | .blank :: rest => fill t rest
  | .header _ :: _ => return t
  | .assignment keys span value :: rest => do
    let (path, key) ← keys
    fill (← t.assign path key span (← value)) rest

/-- The place of a table is looked up before its section is read, and that of a repeated table after it. -/
def addSection (t : Table) (h : Header) (rest : List Line) : Checked Table := do
  let (path, key) ← h.keys
  if h.isRepeated then
    let inner ← fill (Table.empty .header) rest
    Table.modifyAt false (Table.append inner key h.span) path t
  else Table.modifyAt false (Table.define (fill · rest) key h.span) path t

def addSections (t : Table) : List Line → Checked Table
  | [] => return t
  | .header h :: rest => do addSections (← addSection t h rest) rest
  | _ :: rest => addSections t rest

namespace Table

def ofLines (lines : List Line) : Checked Table := do
  let root ← fill (empty .header) lines
  addSections root lines

def isRepresentable (t : Table) : Bool := entriesAreRepresentable t.entries

def ofText (text : String) : Checked Table := do
  let t ← ofLines (← Checked.ofOption (documentLines text))
  if t.isRepresentable then return t else throw .misfit

end Table

end SwiftSource.Toml
