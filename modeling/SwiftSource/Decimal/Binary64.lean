/-!
Binary floating point numbers of 64 bits as exact values: the one nearest to a decimal number, and the
shortest decimal number that reads back as a given one. A number is `significand * 2 ^ exponent`, a decimal
number `digits * 10 ^ exponent`.
-/
namespace SwiftSource

structure Binary64 where
  significand : Nat
  exponent : Int
  deriving DecidableEq, Repr

namespace Binary64

def leastExponent : Int := -1074

def greatestExponent : Int := 971

def roundQuotient (num den : Nat) : Nat :=
  let q := num / den
  let r := num % den
  if 2 * r < den ∨ (2 * r = den ∧ q % 2 = 0) then q else q + 1

def scale (base num den : Nat) (e : Int) : Nat × Nat :=
  if e ≥ 0 then (num * Nat.pow base e.toNat, den) else (num, den * Nat.pow base (-e).toNat)

def fullSignificand : Nat := 0x10000000000000

/-- The number nearest to a quotient; none beyond the largest finite number. -/
def ofQuotient? (num den : Nat) : Option Binary64 :=
  let estimate : Int := (num.log2 : Int) - den.log2 - 52
  let (n, d) := scale 2 num den (-estimate)
  let e := max leastExponent (if n < fullSignificand * d then estimate - 1 else estimate)
  let (n, d) := scale 2 num den (-e)
  let s := roundQuotient n d
  let result := if s = 2 * fullSignificand then ⟨fullSignificand, e + 1⟩ else ⟨s, e⟩
  if result.exponent ≤ greatestExponent then some result else none

def ofDecimal? (m : Nat) (e : Int) : Option Binary64 :=
  let magnitude := (Nat.toDigits 10 m).length + e
  if m = 0 ∨ magnitude < -330 then some ⟨0, leastExponent⟩
  else if magnitude > 310 then none
  else
    let (n, d) := scale 10 m 1 e
    ofQuotient? n d

structure Decimal where
  digits : Nat
  exponent : Int
  deriving DecidableEq, Repr

def Decimal.trim (d : Decimal) : Decimal := if d.digits % 10 = 0 then ⟨d.digits / 10, d.exponent + 1⟩ else d

def ReadsBack (x : Binary64) (d : Decimal) : Bool := ofDecimal? d.digits d.exponent = some x

def quotient (x : Binary64) : Nat × Nat := scale 2 x.significand 1 x.exponent

/-- The multiple of `10 ^ k` at or below `x`, in units of `10 ^ k`, and twice the remainder against one
unit. -/
def gridBelow (x : Binary64) (k : Int) : Nat × Ordering :=
  let (n, d) := x.quotient
  let (n, d) := scale 10 n d (-k)
  (n / d, compare (2 * (n % d)) d)

def nearestOnGrid? (x : Binary64) (k : Int) : Option Decimal :=
  let (below, side) := x.gridBelow k
  let low : Decimal := ⟨below, k⟩
  let high : Decimal := ⟨below + 1, k⟩
  match x.ReadsBack low, x.ReadsBack high with
  | true, true => some (if side = .lt then low else high)
  | true, false => some low
  | false, true => some high
  | false, false => none

def leadingExponent (x : Binary64) : Int :=
  let (n, d) := x.quotient
  if n / d > 0 then (Nat.toDigits 10 (n / d)).length - 1
  else -(((List.range 330).find? fun k => d ≤ n * Nat.pow 10 k).getD 330 : Nat)

def shortest (x : Binary64) : Decimal :=
  if x.significand = 0 then ⟨0, 0⟩
  else ((List.range 17).findSome? fun (n : Nat) => x.nearestOnGrid? (x.leadingExponent - (n : Int))).elim ⟨0, 0⟩ .trim

def Decimal.positional (d : Decimal) : String :=
  if d.exponent ≥ 0 then Nat.repr d.digits ++ String.ofList (List.replicate d.exponent.toNat '0') ++ ".0"
  else
    let places := (-d.exponent).toNat
    let figures := (Nat.repr d.digits).toList
    let padded := List.replicate (places + 1 - figures.length) '0' ++ figures
    let whole := padded.length - places
    String.ofList (padded.take whole) ++ "." ++ String.ofList (padded.drop whole)

end Binary64

end SwiftSource
