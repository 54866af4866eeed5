/-!
Paths with `/` between their components.
-/
namespace SwiftSource.Path

def isAbsolute (path : String) : Bool := path.toList.head? = some '/'

def endsWithSlash (path : String) : Bool := path.toList.getLast? = some '/'

def join (base path : String) : String :=
  if isAbsolute path then path
  else if base.isEmpty || endsWithSlash base then base ++ path
  else base ++ "/" ++ path

def split : List Char → List (List Char)
  | [] => [[]]
  | '/' :: rest => [] :: split rest
  | c :: rest =>
    match split rest with
    | [] => [[c]]
    | piece :: others => (c :: piece) :: others

def steps (path : String) : List String := (split path.toList).map String.ofList

def ofSteps (steps : List String) : String := "/".intercalate steps

def withoutSlashes (steps : List String) : List String := (steps.reverse.dropWhile (· = "")).reverse

def stays (name : String) : Bool := name = "" || name = "."

/-- The steps in front of the last one that leaves its place, the last one first. -/
def backwards (steps : List String) : List String := (steps.reverse.dropWhile stays).tail

/-- The steps to what is above the place that some steps lead to. -/
def above (steps : List String) : List String := ((backwards steps).dropWhile stays).reverse

end SwiftSource.Path
