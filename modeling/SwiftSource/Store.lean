import SwiftSource.SourceFile

/-!
A store of files, directories and symbolic links, and the writing of source files into it. A path that begins with
a slash leads from the root, every other one from the working directory. A step `..` leads to the directory that
holds the one it is taken from, and from the root back to the root; a link on the way is followed first. Every file
has one place, and nothing but the operations below changes a store.
-/
namespace SwiftSource

inductive Content where
  | text (s : String)
  | binary (bytes : ByteArray)

namespace Content

instance : DecidableEq Content
  | .text s, .text t => if h : s = t then .isTrue (congrArg text h) else .isFalse (h <| text.inj ·)
  | .binary a, .binary b =>
    if h : a.data = b.data then .isTrue (congrArg binary (ByteArray.ext h))
    else .isFalse (h <| congrArg ByteArray.data <| binary.inj ·)
  | .text _, .binary _ | .binary _, .text _ => .isFalse nofun

def ofBytes (bytes : ByteArray) : Content :=
  match String.fromUTF8? bytes with
  | some s => .text s
  | none => .binary bytes

end Content

inductive Node where
  | file (content : Content)
  | directory
  | link (target : String)
  deriving DecidableEq

inductive StoreError where
  | notFound
  | alreadyExists
  | notADirectory
  | isADirectory
  | nameTooLong
  | tooManyLinks
  | malformedPath
  | invalidData
  deriving DecidableEq, Repr

abbrev Location := List String

structure Store where
  entries : List (Location × Node) := []
  workingDirectory : Location := []
  deriving DecidableEq

namespace Store

instance : Inhabited Store := ⟨{}⟩

def get? (s : Store) (l : Location) : Option Node := if l = [] then some .directory else s.entries.lookup l

def putEntry (l : Location) (n : Node) : List (Location × Node) → List (Location × Node)
  | [] => [(l, n)]
  | (k, m) :: rest => if k = l then (l, n) :: rest else (k, m) :: putEntry l n rest

def put (s : Store) (l : Location) (n : Node) : Store := { s with entries := putEntry l n s.entries }

theorem lookup_putEntry (l k : Location) (n : Node) (entries : List (Location × Node)) :
    (putEntry l n entries).lookup k = if k = l then some n else entries.lookup k := by
  induction entries with
  | nil => by_cases h : k = l <;> simp [putEntry, List.lookup_cons, h, beq_eq_false_iff_ne.mpr]
  | cons e rest ih =>
    obtain ⟨key, node⟩ := e
    by_cases hk : key = l
    · subst hk
      by_cases h : k = key <;> simp [putEntry, List.lookup_cons, h, beq_eq_false_iff_ne.mpr]
    · by_cases h : k = key
      · simp [putEntry, h, hk]
      · simp [putEntry, List.lookup_cons, hk, beq_eq_false_iff_ne.mpr h, ih]

theorem get?_put {s : Store} {l : Location} (hl : l ≠ []) (n : Node) (k : Location) :
    (s.put l n).get? k = if k = l then some n else s.get? k := by
  by_cases hk : k = []
  · subst hk
    rw [if_neg (Ne.symm hl)]
    rfl
  · simp [get?, put, hk, lookup_putEntry]

/-! ### Paths -/

def nameLimit : Nat := 255

def pathLimit : Nat := 4095

def linkLimit : Nat := 40

def checkSteps (steps : List String) : Except StoreError Unit :=
  if steps.any fun name => name.toList.contains '\x00' then .error .malformedPath
  else if pathLimit < (Path.ofSteps steps).utf8ByteSize then .error .nameTooLong
  else .ok ()

def origin (l : Location) (path : String) : Location := if Path.isAbsolute path then [] else l

def descend (l : Location) (name : String) : Location :=
  if Path.stays name then l else if name = ".." then l.dropLast else l ++ [name]

def step (s : Store) (l : Location) (name : String) : Except StoreError Location :=
  match s.get? l with
  | some .directory => if name.utf8ByteSize ≤ nameLimit then .ok (descend l name) else .error .nameTooLong
  | some _ => .error .notADirectory
  | none => .error .notFound

/-- Takes the steps in order; what is left of them at a link is for `jump` to take. -/
def walk (s : Store) (jump : Location → List String → Except StoreError Location) (l : Location) :
    List String → Except StoreError Location
  | [] => .ok l
  | name :: rest => do
    let next ← s.step l name
    match s.get? next with
    | some (.link target) => jump (origin l target) (Path.steps target ++ rest)
    | _ => s.walk jump next rest

def resolve (s : Store) : (links : Nat) → Location → List String → Except StoreError Location
  | 0 => s.walk fun _ _ => .error .tooManyLinks
  | links + 1 => s.walk (s.resolve links)

def resolveFrom (s : Store) (l : Location) (steps : List String) : Except StoreError Location :=
  s.resolve linkLimit l steps

def locate (s : Store) (path : String) : Except StoreError Location := do
  checkSteps (Path.steps path)
  if path = "" then throw .notFound else s.resolveFrom (origin s.workingDirectory path) (Path.steps path)

def find (s : Store) (path : String) : Except StoreError Node := do
  let l ← s.locate path
  match s.get? l with
  | some n => return n
  | none => throw .notFound

def contains (s : Store) (path : String) : Bool := (s.find path).isOk

def read (s : Store) (path : String) : Except StoreError String := do
  match ← s.find path with
  | .file (.text t) => return t
  | .file (.binary _) => throw .invalidData
  | .directory | .link _ => throw .isADirectory

/-! ### Changes -/

structure Failure where
  cause : StoreError
  store : Store
  deriving DecidableEq

def isDirectory (s : Store) (start : Location) (steps : List String) : Bool :=
  match s.resolveFrom start steps with
  | .ok l => s.get? l = some .directory
  | .error _ => false

def makeDirectory (s : Store) (start : Location) (steps : List String) : Except StoreError Store := do
  checkSteps steps
  let bare := Path.withoutSlashes steps
  let above ← s.resolveFrom start bare.dropLast
  -- a link in the place of the directory is not followed to make one where it leads
  let l ← s.step above (bare.getLast?.getD "")
  match s.get? l with
  | none => return s.put l .directory
  | some _ => if s.isDirectory start bare then return s else throw .alreadyExists

/-- If the way is missing, what is above is made first; `before` holds the steps to that, the last one first. -/
def makeDirectoryBelow (s : Store) (start : Location) (steps : List String) :
    (before : List String) → Except Failure Store
  | [] => (s.makeDirectory start steps).mapError (⟨·, s⟩)
  | name :: before =>
    if Path.stays name then s.makeDirectoryBelow start steps before
    else
      match s.makeDirectory start steps with
      | .error .notFound => do
        let made ← s.makeDirectoryBelow start (name :: before).reverse before
        (made.makeDirectory start steps).mapError (⟨·, made⟩)
      | outcome => outcome.mapError (⟨·, s⟩)

def makeDirectoriesAlong (s : Store) (start : Location) (steps : List String) : Except Failure Store :=
  s.makeDirectoryBelow start steps (Path.backwards steps)

def makeDirectories (s : Store) (path : String) : Except Failure Store :=
  s.makeDirectoriesAlong (origin s.workingDirectory path) (Path.steps path)

def writeFile (s : Store) (path : String) (content : Content) : Except StoreError Store :=
  if Path.endsWithSlash path then do
    let steps := Path.steps path
    checkSteps steps
    let _ ← s.resolveFrom (origin s.workingDirectory path) ((Path.withoutSlashes steps).dropLast ++ [""])
    throw .isADirectory
  else do
    let l ← s.locate path
    match s.get? l with
    | some (.file _) | none => return s.put l (.file content)
    | some .directory | some (.link _) => throw .isADirectory

def writeWithParents (s : Store) (path : String) (content : Content) : Except Failure Store := do
  let made ← s.makeDirectoriesAlong (origin s.workingDirectory path) (Path.above (Path.steps path))
  (made.writeFile path content).mapError (⟨·, made⟩)

def paths (s : Store) : List String :=
  let below := s.entries.filter fun (l, _) => s.workingDirectory.isPrefixOf l && l ≠ s.workingDirectory
  (below.map fun (l, n) =>
    Path.ofSteps (l.drop s.workingDirectory.length) ++ if n = .directory then "/" else "").mergeSort

inductive WriteResult where
  | written
  | skipped
  deriving DecidableEq, Repr

def save (s : Store) (path : String) (rule : Overwrite) (text : String) :
    Except Failure (WriteResult × Store) :=
  if rule = .ifMissing ∧ s.contains path then .ok (.skipped, s)
  else do
    let stored ← s.writeWithParents path (.text text)
    return (.written, stored)

end Store

namespace SourceFile

def save (f : SourceFile) (base : String) (s : Store) : Except Store.Failure (Store.WriteResult × Store) :=
  s.save (f.path base) f.overwrite f.render

end SourceFile

end SwiftSource
