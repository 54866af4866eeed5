import SwiftSource.Text.Blank
import SwiftSource.Text.Casing

/-!
Identifiers made from raw names. A raw name is cut into words at its separators, and every word is
capitalized; a name of a member starts in lower case.
-/
namespace SwiftSource.Naming

open Text

inductive Case where
  | type
  | member
  deriving DecidableEq, Repr

def isSeparator (c : Char) : Bool := isBlank c || ['_', '.', '-', '[', ']'].contains c

def words : List Char → List (List Char)
  | [] => [[]]
  | c :: rest =>
    if isSeparator c then [] :: words rest
    else
      match words rest with
      | [] => [[c]]
      | word :: others => (c :: word) :: others

def joinWords (text : List Char) : List Char := (words text).flatMap capitalize

/-- The identifier that a raw name gives. Humps inside a word stay as they are. -/
def clean (name : String) : Case → String
  | .type => String.ofList (joinWords name.toList)
  | .member => String.ofList (uncapitalize (joinWords name.toList))

def reservedWords : List String :=
  ["associatedtype", "as", "break", "case", "catch", "class", "continue", "default", "defer", "deinit", "do",
    "else", "enum", "extension", "fallthrough", "false", "fileprivate", "for", "func", "guard", "if", "import",
    "in", "init", "inout", "internal", "is", "let", "nil", "operator", "private", "protocol", "public", "repeat",
    "rethrows", "return", "self", "Self", "static", "struct", "subscript", "super", "switch", "throw", "throws",
    "true", "try", "typealias", "var", "where", "while"]

def isReserved (name : String) : Bool := reservedWords.contains name

def escape (name : String) : String := if isReserved name then "\x60" ++ name ++ "\x60" else name

theorem words_ne_nil (text : List Char) : words text ≠ [] := by
  cases text with
  | nil => simp [words]
  | cons c rest => grind [words]

theorem words_cons_of_separator {c : Char} (h : isSeparator c = true) (rest : List Char) :
    words (c :: rest) = [] :: words rest := by
  simp [words, h]

theorem escape_of_not_reserved {name : String} (h : isReserved name = false) : escape name = name := by
  simp [escape, h]

end SwiftSource.Naming
