/-!
Decimal numbers in a field of a least width.
-/
namespace SwiftSource.Text

inductive Padding where
  | zero
  | space
  | none
  deriving DecidableEq, Repr

def decimal (padding : Padding) (width n : Nat) : String :=
  let digits := Nat.repr n
  let missing := width - digits.length
  match padding with
  | .zero => String.ofList (List.replicate missing '0') ++ digits
  | .space => String.ofList (List.replicate missing ' ') ++ digits
  | .none => digits

/-- Like `decimal`, with a sign that counts towards the width: a zero fill follows the sign, and a
space fill precedes it. -/
def signedDecimal (padding : Padding) (width : Nat) (n : Int) : String :=
  let sign := if n < 0 then "-" else "+"
  match padding with
  | .zero => sign ++ decimal .zero (width - 1) n.natAbs
  | .space =>
    let number := sign ++ Nat.repr n.natAbs
    String.ofList (List.replicate (width - number.length) ' ') ++ number
  | .none => sign ++ Nat.repr n.natAbs

end SwiftSource.Text
