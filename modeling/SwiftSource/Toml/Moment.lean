import SwiftSource.Calendar.Date
import SwiftSource.Toml.Number

/-!
Dates and times as documents write them. Nothing but their form matters here, so a reader gives what
follows what it has read.
-/
namespace SwiftSource.Toml

def twoDigits? : List Char → Option (Nat × List Char)
  | a :: b :: rest =>
    if isDecimalDigit a && isDecimalDigit b then some (10 * digitValue a + digitValue b, rest) else none
  | _ => none

def expect? (c : Char) : List Char → Option (List Char)
  | d :: rest => if d = c then some rest else none
  | [] => none

def afterDate? (text : List Char) : Option (List Char) := do
  let (century, rest) ← twoDigits? text
  let (yearOfCentury, rest) ← twoDigits? rest
  let (month, rest) ← twoDigits? (← expect? '-' rest)
  let (day, rest) ← twoDigits? (← expect? '-' rest)
  if 1 ≤ day ∧ day ≤ Calendar.monthLength (100 * century + yearOfCentury) month then some rest else none

def afterFraction? : List Char → Option (List Char)
  | '.' :: c :: rest => if isDecimalDigit c then some (rest.dropWhile isDecimalDigit) else none
  | '.' :: [] => none
  | text => some text

/-- What follows a time of day. Seconds may be missing, and there may be sixty of them before a leap
second. -/
def afterTime? (text : List Char) : Option (List Char) := do
  let (hour, rest) ← twoDigits? text
  let (minute, rest) ← twoDigits? (← expect? ':' rest)
  if hour > 23 ∨ minute > 59 then none
  else
    match rest with
    | ':' :: rest =>
      let (second, rest) ← twoDigits? rest
      if second > 60 then none else afterFraction? rest
    | _ => some rest

def isOffset : List Char → Bool
  | [] => true
  | ['Z'] | ['z'] => true
  | '+' :: rest | '-' :: rest => afterTime? rest = some [] && rest.length = 5
  | _ => false

def isMoment (text : List Char) : Bool :=
  match afterDate? text with
  | some [] => true
  | some (separator :: rest) =>
    (separator = 'T' || separator = 't' || separator = ' ') && ((afterTime? rest).map isOffset).getD false
  | none => afterTime? text = some []

end SwiftSource.Toml
