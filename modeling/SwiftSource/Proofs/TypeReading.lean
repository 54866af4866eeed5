import SwiftSource.Proofs.TypeTerms

/-! Reading a type back from its text, by a machine that takes one character after another and keeps the brackets that
are still open. Main statement: type terms have one text exactly when they have one shape, which the machine finds. -/

namespace SwiftSource

/-- What a text tells of a type: its atoms, its brackets, and what is optional. -/
inductive TypeShape where
  | named (keyword : String) (isOptional : Bool)
  | array (element : TypeShape) (isOptional : Bool)
  | dictionary (key value : TypeShape) (isOptional : Bool)
  deriving DecidableEq

namespace TypeShape

def isOptional : TypeShape → Bool
  | named _ o | array _ o | dictionary _ _ o => o

def optional : TypeShape → TypeShape
  | named keyword _ => named keyword true
  | array element _ => array element true
  | dictionary key value _ => dictionary key value true

def mark (isOptional : Bool) : String := if isOptional then "?" else ""

def text : TypeShape → String
  | named keyword o => keyword ++ mark o
  | array element o => "[" ++ element.text ++ "]" ++ mark o
  | dictionary key value o => "[" ++ key.text ++ ": " ++ value.text ++ "]" ++ mark o

def atoms : TypeShape → List String
  | named keyword _ => [keyword]
  | array element _ => element.atoms
  | dictionary key value _ => key.atoms ++ value.atoms

lemma optional_eq_self {s : TypeShape} (h : s.isOptional = true) : s.optional = s := by
  cases s with
  | named _ o | array _ o | dictionary _ _ o =>
    obtain rfl : o = true := h
    rfl

lemma text_optional {s : TypeShape} (h : s.isOptional = false) : s.optional.text = s.text ++ "?" := by
  cases s with
  | named _ o | array _ o | dictionary _ _ o =>
    obtain rfl : o = false := h
    simp [optional, text, mark]

end TypeShape

namespace TypeTerm

def shape : TypeTerm → TypeShape
  | named keyword => .named keyword false
  | importing t _ => t.shape
  | optional t => t.shape.optional
  | array element => .array element.shape false
  | dictionary key value => .dictionary key.shape value.shape false

def atoms : TypeTerm → List String
  | named keyword => [keyword]
  | importing t _ => t.atoms
  | optional t => t.atoms
  | array element => element.atoms
  | dictionary key value => key.atoms ++ value.atoms

lemma atoms_shape (t : TypeTerm) : t.shape.atoms = t.atoms := by
  induction t with
  | named keyword => rfl
  | importing t name ih => exact ih
  | optional t ih =>
    rw [shape, atoms, ← ih]
    cases t.shape <;> rfl
  | array element ih => exact ih
  | dictionary key value ihKey ihValue => simp [shape, atoms, TypeShape.atoms, ihKey, ihValue]

lemma isOptional_shape (t : TypeTerm) : t.shape.isOptional = t.toTypeName.isOptional := by
  induction t with
  | named keyword => rfl
  | importing t name ih => exact ih
  | optional t ih =>
    rw [shape]
    cases t.shape <;> rfl
  | array element ih => rfl
  | dictionary key value ihKey ihValue => rfl

lemma text_shape (t : TypeTerm) : t.shape.text = t.toTypeName.text := by
  induction t with
  | named keyword => simp [shape, toTypeName, TypeShape.text, TypeShape.mark]
  | importing t name ih => exact ih
  | optional t ih =>
    rw [toTypeName, TypeName.text_optional, shape]
    rw [TypeName.text, ← isOptional_shape] at ih
    -- a second mark does not show
    cases h : t.shape.isOptional with
    | true =>
      rw [h, if_pos rfl] at ih
      rw [TypeShape.optional_eq_self h, ih]
    | false =>
      rw [h, if_neg Bool.false_ne_true] at ih
      rw [TypeShape.text_optional h, ih]
  | array element ih => simp [shape, toTypeName, TypeShape.text, TypeShape.mark, ih]
  | dictionary key value ihKey ihValue =>
    simp [shape, toTypeName, TypeShape.text, TypeShape.mark, ihKey, ihValue]

end TypeTerm

namespace TypeShape

def signs : List Char := ['[', ']', ':', '?', ' ']

def IsAtom (s : String) : Prop := s ≠ "" ∧ ∀ c ∈ s.toList, c ∉ signs

instance (s : String) : Decidable (IsAtom s) :=
  decidable_of_iff (s ≠ "" ∧ s.toList.all fun c => c ∉ signs) (by simp [IsAtom])

structure Reader where
  /-- The open brackets from the innermost one, each with the key that was read in it. -/
  outer : List (Option TypeShape) := []
  current : Option TypeShape := none

namespace Reader

def openBracket : Reader → Option Reader
  | { outer, current := none } => some { outer := none :: outer }
  | _ => none

def closeBracket : Reader → Option Reader
  | { outer := none :: outer, current := some element } => some { outer, current := some (.array element false) }
  | { outer := some key :: outer, current := some value } =>
    some { outer, current := some (.dictionary key value false) }
  | _ => none

def turnToValue : Reader → Option Reader
  | { outer := none :: outer, current := some key } => some { outer := some key :: outer }
  | _ => none

def addLetter (c : Char) : Reader → Option Reader
  | { outer, current := none } => some { outer, current := some (.named (String.singleton c) false) }
  | { outer, current := some (.named keyword false) } => some { outer, current := some (.named (keyword.push c) false) }
  | _ => none

def step (r : Reader) (c : Char) : Option Reader :=
  match c with
  | '[' => r.openBracket
  | ']' => r.closeBracket
  | ':' => r.turnToValue
  | ' ' => if r.current.isNone then some r else none
  | '?' => r.current.map fun s => { r with current := some s.optional }
  | c => r.addLetter c

def run (text : List Char) (r : Reader) : Option Reader := text.foldlM step r

lemma run_append (l k : List Char) (r : Reader) : run (l ++ k) r = (run l r).bind (run k) := List.foldlM_append

lemma step_of_not_mem {c : Char} (h : c ∉ signs) (r : Reader) : step r c = r.addLetter c := by
  unfold step
  split
  case h_6 => rfl
  all_goals exact absurd (by decide) h

variable (outer : List (Option TypeShape))

lemma run_letters {l : List Char} (h : ∀ c ∈ l, c ∉ signs) (keyword : String) :
    run l { outer, current := some (.named keyword false) } =
      some { outer, current := some (.named (keyword ++ String.ofList l) false) } := by
  induction l generalizing keyword with
  | nil => simp [run]
  | cons c rest ih =>
    have hrest := ih (fun d hd => h d (List.mem_cons_of_mem c hd)) (keyword.push c)
    have hkeyword : keyword.push c ++ String.ofList rest = keyword ++ String.ofList (c :: rest) := by
      rw [← String.toList_inj]
      simp
    rw [run] at hrest ⊢
    rw [List.foldlM_cons, step_of_not_mem (h c List.mem_cons_self), ← hkeyword]
    exact hrest

lemma run_atom {s : String} (h : IsAtom s) :
    run s.toList { outer } = some { outer, current := some (.named s false) } := by
  obtain ⟨hne, hs⟩ := h
  cases hl : s.toList with
  | nil => exact absurd (String.toList_eq_nil_iff.mp hl) hne
  | cons c rest =>
    rw [hl] at hs
    have hrest := run_letters outer (fun d hd => hs d (List.mem_cons_of_mem c hd)) (String.singleton c)
    have hword : String.singleton c ++ String.ofList rest = s := by
      rw [← String.toList_inj]
      simp [hl]
    rw [hword] at hrest
    rw [run, List.foldlM_cons, step_of_not_mem (hs c List.mem_cons_self)]
    exact hrest

lemma run_mark (s : TypeShape) (o : Bool) :
    run (mark o).toList { outer, current := some s } =
      some { outer, current := some (if o then s.optional else s) } := by
  cases o <;> rfl

lemma run_open : run "[".toList { outer } = some { outer := none :: outer } := rfl

theorem run_text {s : TypeShape} (h : ∀ k ∈ s.atoms, IsAtom k) :
    run s.text.toList { outer } = some { outer, current := some s } := by
  induction s generalizing outer with
  | named keyword o =>
    have hkeyword := run_atom outer (h keyword List.mem_cons_self)
    rw [text, String.toList_append, run_append, hkeyword, Option.bind_some, run_mark]
    cases o <;> rfl
  | array element o ih =>
    -- the element is read behind its bracket, as deep as that bracket is open
    have helement := ih (none :: outer) h
    have hclose : run "]".toList { outer := none :: outer, current := some element } =
        some { outer, current := some (.array element false) } := rfl
    simp only [text, String.toList_append, run_append, run_open, helement, hclose, Option.bind_some, run_mark]
    cases o <;> rfl
  | dictionary key value o ihKey ihValue =>
    have hkey := ihKey (none :: outer) fun k hk => h k (List.mem_append_left _ hk)
    have hvalue := ihValue (some key :: outer) fun k hk => h k (List.mem_append_right _ hk)
    have hturn : run ": ".toList { outer := none :: outer, current := some key } =
        some { outer := some key :: outer } := rfl
    have hclose : run "]".toList { outer := some key :: outer, current := some value } =
        some { outer, current := some (.dictionary key value false) } := rfl
    simp only [text, String.toList_append, run_append, run_open, hkey, hturn, hvalue, hclose, Option.bind_some, run_mark]
    cases o <;> rfl

end Reader

def read (text : String) : Option TypeShape :=
  match Reader.run text.toList {} with
  | some { outer := [], current := some s } => some s
  | _ => none

lemma read_text {s : TypeShape} (h : ∀ k ∈ s.atoms, IsAtom k) : read s.text = some s := by
  rw [read, Reader.run_text [] h]

end TypeShape

namespace TypeTerm

lemma read_toTypeName {t : TypeTerm} (h : ∀ k ∈ t.atoms, TypeShape.IsAtom k) :
    TypeShape.read t.toTypeName.text = some t.shape := by
  rw [← text_shape]
  apply TypeShape.read_text
  rwa [atoms_shape]

theorem text_unambiguous {s t : TypeTerm} (hs : ∀ k ∈ s.atoms, TypeShape.IsAtom k)
    (ht : ∀ k ∈ t.atoms, TypeShape.IsAtom k) :
    TypeShape.read s.toTypeName.text = some s.shape ∧ (s.toTypeName.text = t.toTypeName.text ↔ s.shape = t.shape) := by
  refine ⟨read_toTypeName hs, fun h => ?_, fun h => ?_⟩
  · have hsome : some s.shape = some t.shape := by
      rw [← read_toTypeName hs, ← read_toTypeName ht, h]
    exact Option.some.inj hsome
  · rw [← text_shape, ← text_shape, h]

theorem text_unambiguous_marks :
    let dates := array (optional (optional (importing (named "Date") "Foundation")))
    let s := optional (dictionary (named "Key") dates)
    let t := dictionary (named "Key") (optional dates)
    TypeShape.read "[Key: [Date?]]?" = some s.shape ∧ s.toTypeName.text ≠ t.toTypeName.text := by
  intro dates s t
  have hatoms : ∀ k ∈ ["Key", "Date"], TypeShape.IsAtom k :=
    List.forall_mem_cons.mpr ⟨by decide, List.forall_mem_singleton.mpr (by decide)⟩
  have hs : ∀ k ∈ s.atoms, TypeShape.IsAtom k := hatoms
  have ht : ∀ k ∈ t.atoms, TypeShape.IsAtom k := hatoms
  obtain ⟨hread, htext⟩ := text_unambiguous hs ht
  exact ⟨hread, mt htext.mp (by decide)⟩

end TypeTerm

end SwiftSource
