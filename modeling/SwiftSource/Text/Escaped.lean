import SwiftSource.Text.Unprintable

/-!
Texts between double quotes, with an escape for each character that would not show.
-/
namespace SwiftSource.Text

def escapeCharacter (c : Char) : List Char :=
  if c = '\x00' then ['\\', '0']
  else if c = '\t' then ['\\', 't']
  else if c = '\r' then ['\\', 'r']
  else if c = '\n' then ['\\', 'n']
  else if c = '\\' ∨ c = '"' then ['\\', c]
  else if isPrintable c then [c]
  else ['\\', 'u', '\x7b'] ++ Nat.toDigits 16 c.toNat ++ ['\x7d']

def quote (text : String) : String := "\"" ++ String.ofList (text.toList.flatMap escapeCharacter) ++ "\""

end SwiftSource.Text
