/-!
The unit of indentation and its repetition. Main statement: the text of
two levels together is that of the one and then that of the other.
-/
namespace SwiftSource

inductive Indent where
  | spaces (width : Nat)
  | tab
  deriving DecidableEq, Repr

namespace Indent

def IsWidth (n : Nat) : Prop := 1 ≤ n ∧ n ≤ 8

instance (n : Nat) : Decidable (IsWidth n) := inferInstanceAs (Decidable (_ ∧ _))

instance : Inhabited Indent := ⟨spaces 4⟩

/-- One level of indentation. A width outside 1 to 8 stands for four spaces. -/
def unit : Indent → String
  | .spaces n => String.ofList (List.replicate (if IsWidth n then n else 4) ' ')
  | .tab => "\t"

def atLevel (i : Indent) (level : Nat) : String := String.ofList (List.replicate level i.unit.toList).flatten

@[simp]
theorem atLevel_zero (i : Indent) : i.atLevel 0 = "" := rfl

theorem atLevel_add (i : Indent) (m n : Nat) : i.atLevel (m + n) = i.atLevel m ++ i.atLevel n := by
  simp [atLevel, ← String.ofList_append, ← List.flatten_append, List.replicate_append_replicate]

theorem atLevel_succ (i : Indent) (n : Nat) : i.atLevel (n + 1) = i.atLevel n ++ i.unit := by
  rw [atLevel_add]
  simp [atLevel]

end Indent

end SwiftSource
