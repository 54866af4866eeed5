import SwiftSource.Text.CaseTable

/-!
Upper and lower case of a character, and of the first character of a text.
-/
namespace SwiftSource.Text

def mapCase (expansions : List (Nat × List Nat)) (runs : List CaseRun) (c : Char) : List Char :=
  match expansions.lookup c.toNat with
  | some image => image.map Char.ofNat
  | none => [((runs.findSome? fun r => r.image? c.toNat).map Char.ofNat).getD c]

def upper (c : Char) : List Char := mapCase upperExpansions upperRuns c

def lower (c : Char) : List Char := mapCase lowerExpansions lowerRuns c

def capitalize : List Char → List Char
  | [] => []
  | c :: rest => upper c ++ rest

def uncapitalize : List Char → List Char
  | [] => []
  | c :: rest => lower c ++ rest

@[simp]
theorem capitalize_nil : capitalize [] = [] := rfl

@[simp]
theorem uncapitalize_nil : uncapitalize [] = [] := rfl

end SwiftSource.Text
