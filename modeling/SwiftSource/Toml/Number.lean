import SwiftSource.Decimal.Binary64

/-!
Numbers as documents write them: integers in four bases, and floating point numbers.
-/
namespace SwiftSource.Toml

inductive Real where
  | finite (isNegative : Bool) (x : Binary64)
  | infinite (isNegative : Bool)
  | nan
  deriving DecidableEq, Repr

namespace Real

def text : Real → String
  | finite isNegative x => (if isNegative then "-" else "") ++ x.shortest.positional
  | infinite isNegative => if isNegative then "-inf" else "inf"
  | nan => "NaN"

end Real

inductive Number where
  | integer (n : Int)
  | real (x : Real)
  | unrepresentable
  deriving DecidableEq, Repr

def isDecimalDigit (c : Char) : Bool := '0' ≤ c && c ≤ '9'

def digitValue (c : Char) : Nat :=
  if isDecimalDigit c then c.toNat - '0'.toNat else (c.toNat ||| 32) - 'a'.toNat + 10

def isDigitIn (base : Nat) (c : Char) : Bool :=
  (isDecimalDigit c || ('a' ≤ c && c ≤ 'f') || ('A' ≤ c && c ≤ 'F')) && digitValue c < base

def digitsValue (base : Nat) (digits : List Char) : Nat :=
  digits.foldl (fun n c => base * n + digitValue c) 0

/-- Whether every underscore stands in front of a digit and behind a digit; `admits` says whether one may
stand first. -/
def underscoresFit (isDigit : Char → Bool) (admits : Bool) : List Char → Bool
  | [] => true
  | '_' :: rest => admits && rest.head?.any isDigit && underscoresFit isDigit false rest
  | c :: rest => underscoresFit isDigit (isDigit c) rest

def withoutUnderscores (text : List Char) : List Char := text.filter (· ≠ '_')

def signed (isNegative : Bool) (n : Nat) : Int := if isNegative then -n else n

def Number.ofDigits (base : Nat) (isNegative : Bool) (digits : List Char) : Number :=
  let n := signed isNegative (digitsValue base digits)
  let isInRange := -0x8000000000000000 ≤ n ∧ n ≤ 0x7FFFFFFFFFFFFFFF
  if digits ≠ [] ∧ digits.all (isDigitIn base) ∧ isInRange then .integer n else .unrepresentable

def basedInteger? (base : Nat) (text : List Char) : Option Number :=
  let digits := withoutUnderscores text
  if underscoresFit (isDigitIn base) false text ∧ digits.all (isDigitIn base) then
    some (.ofDigits base false digits)
  else none

def exponent? : List Char → Option Int
  | [] => some 0
  | 'e' :: rest | 'E' :: rest =>
    let (isNegative, digits) :=
      match rest with
      | '-' :: digits => (true, digits)
      | '+' :: digits => (false, digits)
      | digits => (false, digits)
    if digits ≠ [] ∧ digits.all isDecimalDigit then some (signed isNegative (digitsValue 10 digits)) else none
  | _ => none

def fraction? : List Char → Option (List Char × List Char)
  | '.' :: rest =>
    match rest.span isDecimalDigit with
    | ([], _) => none
    | places => some places
  | text => some ([], text)

def real? (isNegative : Bool) (text : List Char) : Option Number := do
  let (whole, rest) := text.span isDecimalDigit
  let (places, rest) ← fraction? rest
  let e ← exponent? rest
  if whole.isEmpty then none
  else
    match Binary64.ofDecimal? (digitsValue 10 (whole ++ places)) (e - places.length) with
    | some x => return .real (.finite isNegative x)
    | none => return .unrepresentable

def hasLeadingZero : List Char → Bool
  | '0' :: c :: _ => isDecimalDigit c || c = '_'
  | _ => false

def decimal? (isNegative : Bool) (text : List Char) : Option Number :=
  let rest := text.dropWhile isDecimalDigit
  if text.isEmpty || hasLeadingZero text || rest.contains ' ' then none
  else if rest.any fun c => c = '.' || c = 'e' || c = 'E' then
    if underscoresFit isDecimalDigit false text then real? isNegative (withoutUnderscores text) else none
  else if rest.isEmpty || rest.head? = some '_' then
    if underscoresFit (isDigitIn 16) false text then some (.ofDigits 10 isNegative (withoutUnderscores text))
    else none
  else none

def signedNumber? (isNegative : Bool) : List Char → Option Number
  | ['i', 'n', 'f'] => some (.real (.infinite isNegative))
  | ['n', 'a', 'n'] => some (.real .nan)
  | text => decimal? isNegative text

def number? : List Char → Option Number
  | '0' :: 'x' :: rest => basedInteger? 16 rest
  | '0' :: 'o' :: rest => basedInteger? 8 rest
  | '0' :: 'b' :: rest => basedInteger? 2 rest
  | '-' :: rest => signedNumber? true rest
  | '+' :: rest => signedNumber? false rest
  | text => signedNumber? false text

end SwiftSource.Toml
