import SwiftSource.Text.Decimal

/-!
Days of the proleptic Gregorian calendar, their place in the week and in the year.
-/
namespace SwiftSource

namespace Calendar

open Text

def isLeapYear (year : Int) : Bool := year % 4 == 0 && (year % 100 != 0 || year % 400 == 0)

def monthLengths (year : Int) : List Nat :=
  [31, if isLeapYear year then 29 else 28, 31, 30, 31, 30, 31, 31, 30, 31, 30, 31]

def monthLength (year : Int) (month : Nat) : Nat :=
  match month with
  | 0 => 0
  | m + 1 => (monthLengths year)[m]?.getD 0

def firstYear : Int := -262143

def lastYear : Int := 262142

def IsDay (year : Int) (month day : Nat) : Prop :=
  firstYear ≤ year ∧ year ≤ lastYear ∧ 1 ≤ day ∧ day ≤ monthLength year month

instance (year : Int) (month day : Nat) : Decidable (IsDay year month day) :=
  inferInstanceAs (Decidable (_ ∧ _))

end Calendar

structure Date where
  year : Int
  month : Nat
  day : Nat
  isDay : Calendar.IsDay year month day

namespace Date

open Calendar Text

def epoch : Date := ⟨1970, 1, 1, by decide⟩

instance : Inhabited Date := ⟨epoch⟩

def ofYmd? (year : Int) (month day : Nat) : Option Date :=
  if h : IsDay year month day then some ⟨year, month, day, h⟩ else none

def ofYmd (year : Int) (month day : Nat) : Date := (ofYmd? year month day).getD epoch

def dayOfYear (d : Date) : Nat := ((monthLengths d.year).take (d.month - 1)).foldr Nat.add d.day

def daysBeforeYear (year : Int) : Int :=
  let y := year - 1
  365 * y + y / 4 - y / 100 + y / 400

def daysFromMonday (d : Date) : Nat := ((daysBeforeYear d.year + d.dayOfYear - 1) % 7).toNat

def daysFromSunday (d : Date) : Nat := (d.daysFromMonday + 1) % 7

/-- The number of the week in the year, where the first Monday of the year begins week 1. -/
def weekFromMonday (d : Date) : Nat := (d.dayOfYear + 6 - d.daysFromMonday) / 7

def weekFromSunday (d : Date) : Nat := (d.dayOfYear + 6 - d.daysFromSunday) / 7

def quarter (d : Date) : Nat := (d.month + 2) / 3

def newYearFromMonday (year : Int) : Nat := (daysBeforeYear year % 7).toNat

/-- A year of 53 ISO weeks has its first of January on a Thursday, or is a leap year and has it on a
Wednesday. -/
def isoWeeksInYear (year : Int) : Nat :=
  if newYearFromMonday year = 3 ∨ (isLeapYear year ∧ newYearFromMonday year = 2) then 53 else 52

def isoWeekDate (d : Date) : Int × Nat :=
  let week := (d.dayOfYear + 9 - d.daysFromMonday) / 7
  if week = 0 then (d.year - 1, isoWeeksInYear (d.year - 1))
  else if week > isoWeeksInYear d.year then (d.year + 1, 1)
  else (d.year, week)

def yearText (padding : Padding) (year : Int) : String :=
  if 0 ≤ year ∧ year ≤ 9999 then decimal padding 4 year.toNat else signedDecimal padding 5 year

def iso (d : Date) : String :=
  yearText .zero d.year ++ "-" ++ decimal .zero 2 d.month ++ "-" ++ decimal .zero 2 d.day

end Date

end SwiftSource
