import SwiftSource.Toml.Quoted
import SwiftSource.Toml.Value

/-!
Keys, values and lines of a document. A reader fails where the order of the parts is wrong. A part that
is missing, or wrong in itself, is read to its end, and its meaning is left unsettled.
-/
namespace SwiftSource.Toml

abbrev Reader (α : Type) := Cursor → Option (α × Cursor)

/-- The depth to which arrays and tables may be nested, and the length of a dotted key. -/
def depthLimit : Nat := 80

/-! ### Keys -/

def isBareKeyCharacter (c : Char) : Bool :=
  ('a' ≤ c && c ≤ 'z') || ('A' ≤ c && c ≤ 'Z') || isDecimalDigit c || c = '_' || c = '-'

def isDelimiter (c : Char) : Bool := "=,[]\x7b\x7d# \t\r\n".toList.contains c

def partOr {α : Type} (part : Option (α × List Char)) (skipped : List Char) : Checked α × List Char :=
  match part with
  | some (a, rest) => (.ok a, rest)
  | none => (.error .misfit, skipped)

def isQuote (c : Char) : Bool := c = '"' || c = '\x27'

def keyName : List Char → Checked (List Char) × List Char
  | [] => (.error .misfit, [])
  | c :: rest =>
    let text := c :: rest
    if isQuote c then
      let isOneLine := !([c, c, c].isPrefixOf text)
      partOr (if isOneLine then quotedLine? text else none) (skipQuoted text)
    else
      let (name, rest) := text.span fun c => !isDelimiter c && c ≠ '.'
      (if !name.isEmpty && name.all isBareKeyCharacter then .ok name else .error .misfit, rest)

def simpleKey (c : Cursor) : Checked Key × Cursor :=
  let (name, rest) := keyName c.rest
  let stop := c.moveTo rest
  (name.map fun name => { name := String.ofList name, span := c.spanTo stop }, stop)

def dottedKey : Nat → Cursor → (List (Checked Key) × Checked Key) × Cursor
  | fuel, c =>
    let (key, stop) := simpleKey c
    match fuel, skipBlanks stop.rest with
    | fuel + 1, '.' :: rest =>
      let ((path, last), stop) := dottedKey fuel (stop.moveTo (skipBlanks rest))
      ((key :: path, last), stop)
    | _, rest => (([], key), stop.moveTo rest)

def checkedKeys (path : List (Checked Key)) (last : Checked Key) : Checked (List Key × Key) := do
  let path ← path.mapM id
  let last ← last
  if depthLimit ≤ path.length then throw .longKey
  return (path, last)

def key (c : Cursor) : Checked (List Key × Key) × Cursor :=
  let ((path, last), stop) := dottedKey c.rest.length c
  (checkedKeys path last, stop)

/-! ### Values -/

/-- The characters of a value without quotes, with the blanks between them. `opensText` says that a quote
would be that of another text, as it is behind a blank or a point. -/
def scalarText (opensText : Bool) : List Char → List Char × List Char
  | [] => ([], [])
  | c :: rest =>
    if c = ' ' ∨ c = '\t' then
      match scalarText true rest with
      | ([], _) => ([], c :: rest)
      | (word, rest) => (c :: word, rest)
    else if isDelimiter c || (opensText && isQuote c) then ([], c :: rest)
    else
      let (word, rest) := scalarText (c = '.') rest
      (c :: word, rest)

def Number.toValue : Number → Value
  | .integer n => .integer n
  | .real x => .real x
  | .unrepresentable => .unrepresentable

def scalarValue? (word : List Char) : Option Value :=
  if word = ['t', 'r', 'u', 'e'] then some (.boolean true)
  else if word = ['f', 'a', 'l', 's', 'e'] then some (.boolean false)
  else if isMoment word then some .moment
  else (number? word).map Number.toValue

def scalar : Reader (Checked Value) := fun c =>
  match c.rest with
  | '"' :: _ | '\x27' :: _ =>
    let (text, rest) := partOr (quoted? c.rest) (skipQuoted c.rest)
    some (text.map fun text => .string (String.ofList text), c.moveTo rest)
  | text =>
    let (word, rest) := scalarText true text
    if word.isEmpty then none else some (.ofOption (scalarValue? word), c.moveTo rest)

def trivia (c : Cursor) : Option Cursor := (skipTrivia false c.rest).map c.moveTo

def arrayItems (item : Reader (Checked Value)) : Nat → Reader (Checked (List Value))
  | 0, _ => none
  | fuel + 1, c => do
    let c ← trivia c
    match c.rest with
    | ']' :: rest => return (.ok [], c.moveTo rest)
    | _ =>
      let (first, c) ← item c
      let c ← trivia c
      match c.rest with
      | ',' :: rest =>
        let (others, stop) ← arrayItems item fuel (c.moveTo rest)
        return (do return (← first) :: (← others), stop)
      | ']' :: rest => return (first.map ([·]), c.moveTo rest)
      | _ => none

/-- The place behind the sign between a key and its value in an inline table. Line breaks and comments may
stand around the sign; nothing but a closing brace may stand in its place. -/
def skipSign (c : Cursor) : Option Cursor := do
  let c ← trivia c
  match c.rest with
  | '=' :: rest => trivia (c.moveTo rest)
  | '\x7d' :: _ => some c
  | _ => none

def inlineValue (item : Reader (Checked Value)) : Reader (Checked Value) := fun c =>
  match c.rest with
  | '\x7d' :: _ => some (.error .misfit, c)
  | _ => item c

def assignment (item : Reader (Checked Value)) (t : Checked Table) : Reader (Checked Table) := fun c => do
  let (keys, c) := key c
  let start ← skipSign c
  let (value, stop) ← inlineValue item start
  let assigned := do
    let t ← t
    let (path, last) ← keys
    t.assign path last (start.spanTo stop) (← value)
  return (assigned, stop)

def inlineEntries (item : Reader (Checked Value)) : Nat → Checked Table → Reader (Checked Table)
  | 0, _, _ => none
  | fuel + 1, t, c => do
    let c ← trivia c
    match c.rest with
    | '\x7d' :: rest => return (t, c.moveTo rest)
    | _ =>
      let (t, c) ← assignment item t c
      let c ← trivia c
      match c.rest with
      | ',' :: rest => inlineEntries item fuel t (c.moveTo rest)
      | '\x7d' :: rest => return (t, c.moveTo rest)
      | _ => none

def value : Nat → Reader (Checked Value)
  | 0, c => scalar c
  | depth + 1, c =>
    match c.rest with
    | '[' :: rest => do
      let (items, stop) ← arrayItems (value depth) rest.length (c.moveTo rest)
      return (items.map Value.array, stop)
    | '\x7b' :: rest => do
      let (t, stop) ← inlineEntries (value depth) rest.length (.ok (Table.empty .inline)) (c.moveTo rest)
      return (t.map Table.toValue, stop)
    | _ => scalar c

/-! ### Lines -/

structure Header where
  keys : Checked (List Key × Key)
  span : Span
  isRepeated : Bool

inductive Line where
  | blank
  | header (h : Header)
  | assignment (keys : Checked (List Key × Key)) (span : Span) (value : Checked Value)

def closingBrackets? (isRepeated : Bool) : List Char → Option (List Char)
  | ']' :: ']' :: rest => if isRepeated then some rest else none
  | ']' :: rest => if isRepeated then none else some rest
  | _ => none

def header (isRepeated : Bool) (start : Cursor) (rest : List Char) : Option (Line × Cursor) := do
  let (keys, c) := key (start.moveTo (skipBlanks rest))
  let stop := c.moveTo (← closingBrackets? isRepeated c.rest)
  return (.header { keys, span := start.spanTo stop, isRepeated }, stop)

def lineValue : Reader (Checked Value) := fun c =>
  match c.rest with
  | [] | '#' :: _ | '\n' :: _ | '\r' :: _ => some (.error .misfit, c)
  | _ => value depthLimit c

def lineContent (c : Cursor) : Option (Line × Cursor) :=
  match c.rest with
  | [] | '#' :: _ | '\n' :: _ | '\r' :: _ => some (.blank, c)
  | '[' :: '[' :: rest => header true c rest
  | '[' :: rest => header false c rest
  | _ => do
    let (keys, c) := key c
    let rest ← expect? '=' c.rest
    let start := c.moveTo (skipBlanks rest)
    let (v, stop) ← lineValue start
    return (.assignment keys (start.spanTo stop) v, stop)

def line (c : Cursor) : Option (Line × Cursor) := do
  let (content, c) ← lineContent (c.moveTo (skipBlanks c.rest))
  return (content, c.moveTo (← skipLine false c.rest))

def linesFrom : Nat → Cursor → Option (List Line)
  | 0, c => if c.rest.isEmpty then some [] else none
  | fuel + 1, c =>
    if c.rest.isEmpty then some []
    else do
      let (first, c) ← line c
      return first :: (← linesFrom fuel c)

def documentLines (text : String) : Option (List Line) :=
  let c : Cursor := { rest := text.toList }
  let c :=
    match c.rest with
    | '\ufeff' :: rest => c.moveTo rest
    | _ => c
  linesFrom c.rest.length c

end SwiftSource.Toml
