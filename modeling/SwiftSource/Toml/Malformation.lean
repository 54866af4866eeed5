/-!
Why a text is no document. Whether its parts stand in the right order is settled for the whole text
before any of them is looked at more closely, so a part that means nothing is told only then.
-/
namespace SwiftSource.Toml

inductive Malformation where
  | misfit
  /-- A dotted key has too many parts; none of them is to blame. -/
  | longKey
  deriving DecidableEq, Repr

abbrev Checked (α : Type) := Except Malformation α

def Checked.ofOption {α : Type} : Option α → Checked α
  | some a => .ok a
  | none => .error .misfit

end SwiftSource.Toml
