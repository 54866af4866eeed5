/-!
A place in a document: the characters that follow, and the number of bytes before them. Blanks,
comments and line ends are skipped here.
-/
namespace SwiftSource.Toml

structure Span where
  start : Nat
  length : Nat
  deriving DecidableEq, Repr

structure Cursor where
  rest : List Char
  offset : Nat := 0

def byteCount (l : List Char) : Nat := l.foldr (fun c n => c.utf8Size + n) 0

namespace Cursor

/-- The place where only `rest` follows, for some end `rest` of what follows here. -/
def moveTo (c : Cursor) (rest : List Char) : Cursor :=
  { rest, offset := c.offset + (byteCount c.rest - byteCount rest) }

def spanTo (c : Cursor) (stop : Cursor) : Span := { start := c.offset, length := stop.offset - c.offset }

end Cursor

def isVisible (c : Char) : Bool := c = '\t' || (' ' ≤ c && c ≠ '\x7f')

def skipBlanks : List Char → List Char
  | ' ' :: rest | '\t' :: rest => skipBlanks rest
  | rest => rest

def skipLine (inComment : Bool) : List Char → Option (List Char)
  | [] => some []
  | '\n' :: rest | '\r' :: '\n' :: rest => some rest
  | c :: rest =>
    if inComment then if isVisible c then skipLine true rest else none
    else if c = ' ' ∨ c = '\t' then skipLine false rest
    else if c = '#' then skipLine true rest
    else none

def skipTrivia (inComment : Bool) : List Char → Option (List Char)
  | [] => some []
  | '\n' :: rest | '\r' :: '\n' :: rest => skipTrivia false rest
  | c :: rest =>
    if inComment then if isVisible c then skipTrivia true rest else none
    else if c = ' ' ∨ c = '\t' then skipTrivia false rest
    else if c = '#' then skipTrivia true rest
    else some (c :: rest)

end SwiftSource.Toml
