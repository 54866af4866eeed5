import SwiftSource.SortedSet

/-!
Modifiers of declarations, in the order in which the style guideline writes them.
-/
namespace SwiftSource

inductive Modifier where
  | openAccess
  | publicAccess
  | internalAccess
  | fileprivateAccess
  | privateAccess
  | overriding
  | required
  | convenience
  | classMember
  | staticMember
  | final
  | lazy
  | optional
  | dynamic
  | weak
  | unowned
  | indirect
  | mutating
  | nonmutating
  | throws
  | rethrows
  deriving DecidableEq, Repr

namespace Modifier

def guideline : List Modifier :=
  [openAccess, publicAccess, internalAccess, fileprivateAccess, privateAccess, overriding, required, convenience,
    classMember, staticMember, final, lazy, optional, dynamic, weak, unowned, indirect, mutating, nonmutating,
    throws, rethrows]

def position (m : Modifier) : Nat := m.ctorIdx

theorem position_injective {m n : Modifier} (h : m.position = n.position) : m = n := by
  rw [← ofNat_ctorIdx m, ← ofNat_ctorIdx n]
  exact congrArg Modifier.ofNat h

instance : LT Modifier := ⟨fun m n => m.position < n.position⟩

instance : DecidableLT Modifier := fun m n => inferInstanceAs (Decidable (m.position < n.position))

instance : StrictlyOrdered Modifier where
  irrefl m := Nat.lt_irrefl m.position
  trans := Nat.lt_trans
  connected h h' := position_injective (Nat.le_antisymm (Nat.le_of_not_lt h') (Nat.le_of_not_lt h))

def keyword : Modifier → String
  | openAccess => "open"
  | publicAccess => "public"
  | internalAccess => "internal"
  | fileprivateAccess => "fileprivate"
  | privateAccess => "private"
  | overriding => "override"
  | required => "required"
  | convenience => "convenience"
  | classMember => "class"
  | staticMember => "static"
  | final => "final"
  | lazy => "lazy"
  | optional => "optional"
  | dynamic => "dynamic"
  | weak => "weak"
  | unowned => "unowned"
  | indirect => "indirect"
  | mutating => "mutating"
  | nonmutating => "nonmutating"
  | throws => "throws"
  | rethrows => "rethrows"

def accessLevels : List Modifier :=
  [openAccess, publicAccess, internalAccess, fileprivateAccess, privateAccess]

def isAccessLevel (m : Modifier) : Bool := accessLevels.contains m

/-- An effect stands after the parameters of a method and not before `func`. -/
def isEffect (m : Modifier) : Bool := m == throws || m == rethrows

end Modifier

abbrev ModifierSet := SortedSet Modifier

namespace ModifierSet

def accessLevel (s : ModifierSet) : Option Modifier := Modifier.accessLevels.find? (· ∈ s)

/-- The access level in force: `internal` where none is written. -/
def effectiveAccessLevel (s : ModifierSet) : Modifier := (accessLevel s).getD .internalAccess

def SameAccess (outer member : ModifierSet) : Prop := effectiveAccessLevel outer = effectiveAccessLevel member

instance (outer member : ModifierSet) : Decidable (SameAccess outer member) :=
  inferInstanceAs (Decidable (_ = _))

end ModifierSet

end SwiftSource
