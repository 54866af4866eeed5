import SwiftSource.Calendar.Formatter

/-!
A formatter with directives such as `%Y`. A format is read character by character; a format that asks
for a time of day is well formed, yet it has no text for a date alone.
-/
namespace SwiftSource.DateFormat

open Text

inductive Number where
  | year
  | century
  | yearOfCentury
  | isoYear
  | isoYearOfCentury
  | quarter
  | month
  | day
  | weekFromSunday
  | weekFromMonday
  | isoWeek
  | daysFromSunday
  | isoWeekday
  | dayOfYear
  deriving DecidableEq, Repr

inductive Item where
  | literal (c : Char)
  | number (n : Number) (padding : Padding)
  | weekdayName (abbreviated : Bool)
  | monthName (abbreviated : Bool)
  /-- A part that needs a time of day, an instant or an offset. -/
  | timed
  deriving DecidableEq, Repr

def numeric? : Char → Option (Option Number × Padding)
  | 'Y' => some (some .year, .zero)
  | 'C' => some (some .century, .zero)
  | 'y' => some (some .yearOfCentury, .zero)
  | 'G' => some (some .isoYear, .zero)
  | 'g' => some (some .isoYearOfCentury, .zero)
  | 'q' => some (some .quarter, .none)
  | 'm' => some (some .month, .zero)
  | 'd' => some (some .day, .zero)
  | 'e' => some (some .day, .space)
  | 'U' => some (some .weekFromSunday, .zero)
  | 'W' => some (some .weekFromMonday, .zero)
  | 'V' => some (some .isoWeek, .zero)
  | 'w' => some (some .daysFromSunday, .none)
  | 'u' => some (some .isoWeekday, .none)
  | 'j' => some (some .dayOfYear, .zero)
  | 'H' | 'I' | 'M' | 'S' | 'f' | 'k' | 'l' | 's' => some (none, .zero)
  | _ => none

def Item.ofNumeric (padding : Padding) : Option Number → Item
  | some n => .number n padding
  | none => .timed

def directive? (c : Char) : Option (List Item) :=
  match numeric? c with
  | some (n, padding) => some [.ofNumeric padding n]
  | none =>
    match c with
    | 'A' => some [.weekdayName false]
    | 'a' => some [.weekdayName true]
    | 'B' => some [.monthName false]
    | 'b' | 'h' => some [.monthName true]
    | 'D' | 'x' =>
      some [.number .month .zero, .literal '/', .number .day .zero, .literal '/', .number .yearOfCentury .zero]
    | 'F' => some [.number .year .zero, .literal '-', .number .month .zero, .literal '-', .number .day .zero]
    | 'v' => some [.number .day .space, .literal '-', .monthName true, .literal '-', .number .year .zero]
    | 'P' | 'p' | 'R' | 'T' | 'X' | 'c' | 'r' | 'Z' | 'z' | '+' => some [.timed]
    | 'n' => some [.literal '\n']
    | 't' => some [.literal '\t']
    | '%' => some [.literal '%']
    | _ => none

inductive Pending where
  | nothing
  | percent
  | padded (padding : Padding)
  | lenient
  | colons (count : Nat)
  | point
  | digits
  deriving DecidableEq, Repr

def Pending.step : Pending → Char → Option (List Item × Pending)
  | .nothing, '%' => some ([], .percent)
  | .nothing, c => some ([.literal c], .nothing)
  | .percent, '-' => some ([], .padded .none)
  | .percent, '0' => some ([], .padded .zero)
  | .percent, '_' => some ([], .padded .space)
  | .percent, '#' => some ([], .lenient)
  | .percent, ':' => some ([], .colons 1)
  | .percent, '.' => some ([], .point)
  | .percent, '3' | .percent, '6' | .percent, '9' => some ([], .digits)
  | .percent, c => (directive? c).map (·, .nothing)
  | .padded padding, c => (numeric? c).map fun (n, _) => ([.ofNumeric padding n], .nothing)
  | .lenient, 'z' => some ([.timed], .nothing)
  | .colons _, 'z' => some ([.timed], .nothing)
  | .colons n, ':' => if n < 3 then some ([], .colons (n + 1)) else none
  | .point, 'f' => some ([.timed], .nothing)
  | .point, '3' | .point, '6' | .point, '9' => some ([], .digits)
  | .digits, 'f' => some ([.timed], .nothing)
  | _, _ => none

def readFrom (pending : Pending) : List Char → Option (List Item)
  | [] => if pending = .nothing then some [] else none
  | c :: rest =>
    match pending.step c with
    | none => none
    | some (items, next) => (readFrom next rest).map (items ++ ·)

def items? (format : String) : Option (List Item) := readFrom .nothing format.toList

/-- A value below 256 as two figures. A tens figure above nine is the character that follows `9` at that
distance. -/
def twoFigures (padding : Padding) (n : Nat) : String :=
  let ones := String.singleton (Char.ofNat ('0'.toNat + n % 10))
  match n / 10, padding with
  | 0, .none => ones
  | 0, .space => " " ++ ones
  | tens, _ => String.singleton (Char.ofNat ('0'.toNat + tens)) ++ ones

def centuryOf (year : Int) : Nat := (year / 100 % 256).toNat

def Number.text (d : Date) (padding : Padding) : Number → String
  | .year => Date.yearText padding d.year
  | .century => twoFigures padding (centuryOf d.year)
  | .yearOfCentury => twoFigures padding (d.year % 100).toNat
  | .isoYear => Date.yearText padding d.isoWeekDate.1
  | .isoYearOfCentury => twoFigures padding (d.isoWeekDate.1 % 100).toNat
  | .quarter => Nat.repr d.quarter
  | .month => twoFigures padding d.month
  | .day => twoFigures padding d.day
  | .weekFromSunday => twoFigures padding d.weekFromSunday
  | .weekFromMonday => twoFigures padding d.weekFromMonday
  | .isoWeek => twoFigures padding d.isoWeekDate.2
  | .daysFromSunday => Nat.repr d.daysFromSunday
  | .isoWeekday => Nat.repr (d.daysFromMonday + 1)
  | .dayOfYear => decimal padding 3 d.dayOfYear

def weekdayNames : List String :=
  ["Monday", "Tuesday", "Wednesday", "Thursday", "Friday", "Saturday", "Sunday"]

def monthNames : List String :=
  ["January", "February", "March", "April", "May", "June", "July", "August", "September", "October", "November",
    "December"]

def nameText (name : String) (abbreviated : Bool) : String :=
  if abbreviated then String.ofList (name.toList.take 3) else name

def Item.text? (d : Date) : Item → Option String
  | .literal c => some (String.singleton c)
  | .number n padding => some (n.text d padding)
  | .weekdayName abbreviated => some (nameText (weekdayNames[d.daysFromMonday]?.getD "") abbreviated)
  | .monthName abbreviated => some (nameText (monthNames[d.month - 1]?.getD "") abbreviated)
  | .timed => none

-- a malformed format is a single error item
def formatter : DateFormatter where
  Item := Option Item
  items format :=
    match items? format with
    | some items => items.map some
    | none => [none]
  isError := Option.isNone
  itemText? item d := item.bind (Item.text? d)

end SwiftSource.DateFormat
