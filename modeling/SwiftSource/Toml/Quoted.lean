import SwiftSource.Toml.Cursor

/-!
Texts between quotes. Every reader starts behind the opening quotes and gives the text and what follows
the closing ones. A malformed text is skipped up to its closing quotes.
-/
namespace SwiftSource.Toml

def hexValue? (c : Char) : Option Nat :=
  if '0' ≤ c ∧ c ≤ '9' then some (c.toNat - '0'.toNat)
  else if 'a' ≤ c ∧ c ≤ 'f' then some (c.toNat - 'a'.toNat + 10)
  else if 'A' ≤ c ∧ c ≤ 'F' then some (c.toNat - 'A'.toNat + 10)
  else none

def charOfHex? (digits : List Char) : Option Char := do
  let values ← digits.mapM hexValue?
  let n := values.foldl (fun n d => 16 * n + d) 0
  if n.isValidChar then some (Char.ofNat n) else none

def escaped? : Char → Option Char
  | 'b' => some '\x08'
  | 't' => some '\t'
  | 'n' => some '\n'
  | 'f' => some '\x0c'
  | 'r' => some '\r'
  | 'e' => some '\x1b'
  | '"' => some '"'
  | '\\' => some '\\'
  | _ => none

def before (c : Option Char) (tail : Option (List Char × List Char)) : Option (List Char × List Char) := do
  let c ← c
  let (text, rest) ← tail
  return (c :: text, rest)

def literal : List Char → Option (List Char × List Char)
  | [] => none
  | '\x27' :: rest => some ([], rest)
  | c :: rest => if isVisible c then before (some c) (literal rest) else none

def multilineLiteral : List Char → Option (List Char × List Char)
  | [] => none
  | '\x27' :: '\x27' :: '\x27' :: '\x27' :: '\x27' :: rest => some (['\x27', '\x27'], rest)
  | '\x27' :: '\x27' :: '\x27' :: '\x27' :: rest => some (['\x27'], rest)
  | '\x27' :: '\x27' :: '\x27' :: rest => some ([], rest)
  | '\r' :: '\n' :: rest => before (some '\r') (before (some '\n') (multilineLiteral rest))
  | c :: rest => if isVisible c || c = '\n' then before (some c) (multilineLiteral rest) else none

def basic : List Char → Option (List Char × List Char)
  | [] => none
  | '"' :: rest => some ([], rest)
  | '\\' :: 'x' :: a :: b :: rest => before (charOfHex? [a, b]) (basic rest)
  | '\\' :: 'u' :: a :: b :: c :: d :: rest => before (charOfHex? [a, b, c, d]) (basic rest)
  | '\\' :: 'U' :: a :: b :: c :: d :: e :: f :: g :: h :: rest =>
    before (charOfHex? [a, b, c, d, e, f, g, h]) (basic rest)
  | '\\' :: c :: rest => before (escaped? c) (basic rest)
  | c :: rest => if isVisible c then before (some c) (basic rest) else none

def endsLine : List Char → Bool
  | '\n' :: _ | '\r' :: '\n' :: _ => true
  | ' ' :: rest | '\t' :: rest => endsLine rest
  | _ => false

/-- A backslash at the end of a line joins it to the next character that is neither a blank nor a line
break; `joining` says that such a character is sought. -/
def multilineBasic (joining : Bool) : List Char → Option (List Char × List Char)
  | [] => none
  | '"' :: '"' :: '"' :: '"' :: '"' :: rest => some (['"', '"'], rest)
  | '"' :: '"' :: '"' :: '"' :: rest => some (['"'], rest)
  | '"' :: '"' :: '"' :: rest => some ([], rest)
  | '\\' :: 'x' :: a :: b :: rest => before (charOfHex? [a, b]) (multilineBasic false rest)
  | '\\' :: 'u' :: a :: b :: c :: d :: rest => before (charOfHex? [a, b, c, d]) (multilineBasic false rest)
  | '\\' :: 'U' :: a :: b :: c :: d :: e :: f :: g :: h :: rest =>
    before (charOfHex? [a, b, c, d, e, f, g, h]) (multilineBasic false rest)
  | '\\' :: c :: rest =>
    if endsLine (c :: rest) then multilineBasic true (c :: rest)
    else before (escaped? c) (multilineBasic false rest)
  | '\r' :: '\n' :: rest =>
    if joining then multilineBasic true rest
    else before (some '\r') (before (some '\n') (multilineBasic false rest))
  | c :: rest =>
    if joining && (c = ' ' || c = '\t' || c = '\n') then multilineBasic true rest
    else if isVisible c || c = '\n' then before (some c) (multilineBasic false rest)
    else none

def dropFirstBreak : List Char → List Char
  | '\n' :: rest | '\r' :: '\n' :: rest => rest
  | rest => rest

def quotedLine? : List Char → Option (List Char × List Char)
  | '"' :: rest => basic rest
  | '\x27' :: rest => literal rest
  | _ => none

def quoted? : List Char → Option (List Char × List Char)
  | '"' :: '"' :: '"' :: rest => multilineBasic false (dropFirstBreak rest)
  | '\x27' :: '\x27' :: '\x27' :: rest => multilineLiteral (dropFirstBreak rest)
  | text => quotedLine? text

/-- What follows the closing quotes. In double quotes a backslash hides the character behind it. A text
behind one quote ends with its line at the latest. -/
def skipThrough (quotes : List Char) (isHidden : Bool) : List Char → List Char
  | [] => []
  | c :: rest =>
    if c = '\n' && quotes.length = 1 then c :: rest
    else if isHidden then skipThrough quotes false rest
    else if quotes.isPrefixOf (c :: rest) then (c :: rest).drop quotes.length
    else skipThrough quotes (c = '\\' && quotes.contains '"') rest

/-- Up to two quotes in front of the closing ones belong to a text of several lines. -/
def skipMultiline (quote : Char) (text : List Char) : List Char :=
  let rest := skipThrough [quote, quote, quote] false text
  (rest.take 2).dropWhile (· = quote) ++ rest.drop 2

def skipQuoted : List Char → List Char
  | '"' :: '"' :: '"' :: rest => skipMultiline '"' rest
  | '\x27' :: '\x27' :: '\x27' :: rest => skipMultiline '\x27' rest
  | '"' :: rest => skipThrough ['"'] false rest
  | '\x27' :: rest => skipThrough ['\x27'] false rest
  | text => text

end SwiftSource.Toml
