import Mathlib.Data.List.SplitBy
import Mathlib.Tactic.Lemma
import SwiftSource.Operator

/-!
The words, operators and parentheses in the text of a condition. Main statement: lexemes between which a reader can
tell where one ends are found again in their text.
-/
namespace SwiftSource

inductive Role where
  | word
  | operator
  | parenthesis
  deriving DecidableEq, Repr

namespace Role

def ofChar (c : Char) : Role :=
  if c ∈ ['(', ')'] then .parenthesis
  else if c ∈ [' ', ',', '&', '|', '=', '!', '<', '>'] then .operator
  else .word

/-- Whether two characters in a row belong together. Each parenthesis stands for itself. -/
def continues (c d : Char) : Bool := ofChar c = ofChar d ∧ ofChar c ≠ .parenthesis

def Separated (a b : Role) : Prop := a = b → a = .parenthesis

end Role

/-- A text without spaces, parentheses and characters of operators. -/
def IsWord (s : String) : Prop := s ≠ "" ∧ ∀ c ∈ s.toList, Role.ofChar c = .word

instance (s : String) : Decidable (IsWord s) :=
  decidable_of_iff (s ≠ "" ∧ s.toList.all fun c => Role.ofChar c = .word) (by simp [IsWord])

inductive Lexeme where
  | word (text : String)
  | comparator (c : Comparator) (isGlued : Bool)
  | connective (c : Connective)
  | opening
  | closing
  deriving DecidableEq, Repr

namespace Lexeme

def text : Lexeme → String
  | .word s => s
  | .comparator c isGlued => " " ++ c.symbol ++ if isGlued then "" else " "
  | .connective c => c.joiner
  | .opening => "("
  | .closing => ")"

def role : Lexeme → Role
  | .word _ => .word
  | .comparator .. | .connective _ => .operator
  | .opening | .closing => .parenthesis

def IsLegible : Lexeme → Prop
  | .word s => IsWord s
  | _ => True

def symbols : List Lexeme :=
  [.opening, .closing] ++ Connective.all.map connective ++
    Comparator.all.flatMap fun c => [.comparator c true, .comparator c false]

def ofText (s : String) : Lexeme := (symbols.find? fun l => l.text = s).getD (.word s)

def spell (l : List Lexeme) : String := String.join (l.map text)

def lex (s : List Char) : List Lexeme := (s.splitBy Role.continues).map fun run => ofText (String.ofList run)

/-- What finds a lexeme again in a text: its characters belong together, and it is the lexeme of their run. -/
structure IsRun (l : Lexeme) : Prop where
  ne_nil : l.text.toList ≠ []
  role_eq : ∀ c ∈ l.text.toList, Role.ofChar c = l.role
  isChain : l.text.toList.IsChain fun c d => Role.continues c d
  ofText_eq : ofText l.text = l

lemma eq_word_or_mem_symbols (l : Lexeme) : (∃ s, l = .word s) ∨ l ∈ symbols := by
  cases l with
  | word s => exact .inl ⟨s, rfl⟩
  | comparator c isGlued => right; cases c <;> cases isGlued <;> decide
  | connective c => right; cases c <;> decide
  | opening => right; decide
  | closing => right; decide

lemma isRun_of_mem_symbols {l : Lexeme} (h : l ∈ symbols) : l.IsRun := by
  have hs : ∀ l ∈ symbols, l.text.toList ≠ [] ∧ (l.text.toList.all fun c => Role.ofChar c = l.role) ∧
      (l.text.toList.IsChain fun c d => Role.continues c d) ∧ ofText l.text = l := by
    decide
  obtain ⟨hn, hr, hc, ht⟩ := hs l h
  exact ⟨hn, fun c hmem => of_decide_eq_true (List.all_eq_true.mp hr c hmem), hc, ht⟩

lemma isRun_word {s : String} (h : IsWord s) : (word s).IsRun := by
  have hnone : symbols.find? (fun l => l.text = s) = none := by
    rw [List.find?_eq_none]
    intro l hl he
    obtain rfl := of_decide_eq_true he
    -- no character of a symbol is one of a word
    have hrole : ∀ l ∈ symbols, l.role ≠ .word := by decide
    have hrun := isRun_of_mem_symbols hl
    obtain ⟨c, hc⟩ := List.exists_mem_of_ne_nil _ hrun.ne_nil
    exact hrole l hl ((hrun.role_eq c hc).symm.trans (h.2 c hc))
  refine ⟨fun he => h.1 (String.toList_eq_nil_iff.mp he), h.2, ?_, ?_⟩
  · refine (List.pairwise_of_forall_mem_list ?_).isChain
    intro c hc d hd
    rw [Role.continues, h.2 c hc, h.2 d hd]
    rfl
  · rw [text, ofText, hnone, Option.getD_none]

lemma IsLegible.isRun {l : Lexeme} (h : l.IsLegible) : l.IsRun := by
  obtain ⟨s, rfl⟩ | hs := l.eq_word_or_mem_symbols
  · exact isRun_word h
  · exact isRun_of_mem_symbols hs

lemma toList_spell (l : List Lexeme) : (spell l).toList = (l.map fun x => x.text.toList).flatten := by
  rw [spell, String.toList_join, List.flatMap_map, List.flatMap_def]

lemma spell_cons (x : Lexeme) (l : List Lexeme) : spell (x :: l) = x.text ++ spell l := by
  rw [spell, List.map_cons, String.join_cons, spell]

lemma spell_append (l k : List Lexeme) : spell (l ++ k) = spell l ++ spell k := by
  rw [spell, List.map_append, String.join_append, spell, spell]

theorem lex_spell {l : List Lexeme} (hl : ∀ x ∈ l, x.IsLegible) (hr : (l.map role).IsChain Role.Separated) :
    lex (spell l).toList = l := by
  have hrun : ∀ x ∈ l, x.IsRun := fun x hx => (hl x hx).isRun
  have hsplit : (spell l).toList.splitBy Role.continues = l.map fun x => x.text.toList := by
    rw [toList_spell]
    refine List.splitBy_flatten ?_ ?_ ?_
    · intro hnil
      obtain ⟨x, hx, hn⟩ := List.mem_map.mp hnil
      exact (hrun x hx).ne_nil hn
    · intro run hmem
      obtain ⟨x, hx, rfl⟩ := List.mem_map.mp hmem
      exact (hrun x hx).isChain
    · rw [List.isChain_map] at hr ⊢
      refine hr.imp_of_mem_imp ?_
      intro x y hx hy hxy
      refine ⟨(hrun x hx).ne_nil, (hrun y hy).ne_nil, ?_⟩
      rw [Role.continues, (hrun x hx).role_eq _ (List.getLast_mem _), (hrun y hy).role_eq _ (List.head_mem _)]
      simpa [Role.Separated] using hxy
  rw [lex, hsplit, List.map_map]
  refine (List.map_congr_left ?_).trans l.map_id
  intro x hx
  rw [Function.comp_apply, String.ofList_toList, (hrun x hx).ofText_eq, id]

end Lexeme

end SwiftSource
