import SwiftSource.Calendar.Date

/-!
Date formatting as far as it is relied upon: a format is read as items, some of which stand for errors in it,
and a date is printed item by item.
-/
namespace SwiftSource

structure DateFormatter where
  Item : Type
  items : String → List Item
  isError : Item → Bool
  itemText? : Item → Date → Option String

namespace DateFormatter

variable (f : DateFormatter)

def textOf? (d : Date) : List f.Item → Option String
  | [] => some ""
  | item :: rest => do return (← f.itemText? item d) ++ (← textOf? d rest)

def text? (format : String) (d : Date) : Option String := f.textOf? d (f.items format)

def hasError (format : String) : Bool := (f.items format).any f.isError

theorem hasError_eq_true {format : String} :
    f.hasError format = true ↔ ∃ item ∈ f.items format, f.isError item = true := List.any_eq_true

theorem hasError_eq_false {format : String} :
    f.hasError format = false ↔ ∀ item ∈ f.items format, f.isError item = false := by
  simp [hasError]

end DateFormatter

end SwiftSource
