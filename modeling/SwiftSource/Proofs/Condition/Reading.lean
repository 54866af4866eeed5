import SwiftSource.Proofs.Condition.Legible

/-!
Reading a condition back from its text, by a machine that takes one lexeme after another and keeps the groups that are
still open. Main statement: conditions between single words have different texts unless they are equal, but for marks
that do not show.
-/
namespace SwiftSource

open Lexeme (lex spell)

namespace Condition

inductive Part where
  | nothing
  | left (text : String)
  | compared (left : String) (comparator : Comparator) (isGlued : Bool)

structure Reader where
  /-- The open groups from the innermost one, each as the elements before it and the connective before it. -/
  outer : List (List ConditionElement × Option Connective) := []
  elements : List ConditionElement := []
  connective : Option Connective := none
  part : Part := .nothing

namespace Reader

def add (r : Reader) (e : ConditionElement) : Reader := { outer := r.outer, elements := r.elements ++ [e] }

def close : Reader → Option Reader
  | { outer := (before, joiner) :: outer, elements, connective := none, .. } =>
    some (add { outer, elements := before } (.group { elements, connective := joiner }))
  | _ => none

def step (r : Reader) (x : Lexeme) : Option Reader :=
  match r.part, x with
  | .nothing, .connective c => if r.connective.isNone then some { r with connective := some c } else none
  | .nothing, .word s => some { r with part := .left s }
  | .left s, .comparator c isGlued => some { r with part := .compared s c isGlued }
  | .compared s c isGlued, .word t =>
    let comparison := { left := Fragment.ofText s, comparator := c, right := [.token { text := t, isGlued }] }
    some (r.add (.clause { comparison, connective := r.connective }))
  | .nothing, .opening => some { outer := (r.elements, r.connective) :: r.outer }
  | .nothing, .closing => r.close
  | _, _ => none

def run (l : List Lexeme) (r : Reader) : Option Reader := l.foldlM step r

lemma run_cons (x : Lexeme) (l : List Lexeme) (r : Reader) : run (x :: l) r = (step r x).bind (run l) :=
  List.foldlM_cons

lemma run_append (l k : List Lexeme) (r : Reader) : run (l ++ k) r = (run l r).bind (run k) := List.foldlM_append

lemma run_joiner (connective : Option Connective) (outer : List (List ConditionElement × Option Connective))
    (elements : List ConditionElement) :
    run (connective.toList.map Lexeme.connective) { outer, elements } = some { outer, elements, connective } := by
  cases connective with
  | none => rfl
  | some c => rfl

end Reader

end Condition

mutual

theorem ConditionElement.run_lexemes : ∀ (e : ConditionElement), e.IsLegible →
    ∀ (outer : List (List ConditionElement × Option Connective)) (elements : List ConditionElement),
    Condition.Reader.run e.lexemes { outer, elements } = some (.add { outer, elements } e)
  | .clause { comparison := { left, comparator, right }, connective }, h, outer, elements => by
    obtain ⟨⟨s, -, rfl⟩, t, -, rfl⟩ := h
    rw [ConditionElement.lexemes, Condition.Reader.run_append, Condition.Reader.run_joiner]
    rfl
  | .group { elements := inner, connective }, h, outer, elements => by
    -- the elements of the group are read into a list of their own, until the parenthesis closes
    have hg := Condition.run_lexemesOf inner true h ((elements, connective) :: outer) []
    rw [ConditionElement.lexemes, List.append_assoc, Condition.Reader.run_append, Condition.Reader.run_joiner,
      Option.bind_some, List.cons_append, Condition.Reader.run_cons]
    change Condition.Reader.run (Condition.lexemesOf inner ++ [.closing]) _ = _
    rw [Condition.Reader.run_append, hg]
    rfl

theorem Condition.run_lexemesOf : ∀ (l : List ConditionElement) (isFirst : Bool),
    ConditionElement.AreLegible l isFirst →
    ∀ (outer : List (List ConditionElement × Option Connective)) (elements : List ConditionElement),
    Condition.Reader.run (Condition.lexemesOf l) { outer, elements } = some { outer, elements := elements ++ l }
  | [], _, _, outer, elements => by
    rw [List.append_nil]
    rfl
  | e :: rest, _, ⟨_, he, hrest⟩, outer, elements => by
    rw [Condition.lexemesOf, Condition.Reader.run_append, ConditionElement.run_lexemes e he, Option.bind_some,
      Condition.Reader.add, Condition.run_lexemesOf rest false hrest, List.append_assoc, List.singleton_append]

end

namespace Condition

def readElements (text : List Char) : Option (List ConditionElement) :=
  match Reader.run (lex text) {} with
  | some { outer := [], elements, connective := none, part := .nothing } => some elements
  | _ => none

def splitLead (text : List Char) : Option Connective × List Char :=
  match Connective.all.find? fun c => (c.symbol ++ " ").toList.isPrefixOf text with
  | none => (none, text)
  | some c => (some c, text.drop (c.symbol ++ " ").length)

def read (text : String) : Option Condition :=
  let (connective, rest) := splitLead text.toList
  (readElements rest).map fun elements => { elements, connective }

lemma splitLead_append (c : Connective) (s : String) :
    splitLead (c.symbol ++ " " ++ s).toList = (some c, s.toList) := by
  rw [String.toList_append]
  cases c with
  | and => rfl
  | or => rfl
  | comma => rfl

lemma splitLead_of_head? {text : List Char} (h : ∀ c ∈ text.head?, Role.ofChar c ≠ .operator) :
    splitLead text = (none, text) := by
  have hnone : Connective.all.find? (fun c => (c.symbol ++ " ").toList.isPrefixOf text) = none := by
    rw [List.find?_eq_none]
    intro c _ hp
    obtain ⟨rest, rfl⟩ := List.isPrefixOf_iff_prefix.mp hp
    cases c with
    | and | or | comma => exact h _ rfl rfl
  rw [splitLead, hnone]

lemma readElements_spell {l : List ConditionElement} (h : ConditionElement.AreLegible l true) :
    readElements (spell (lexemesOf l)).toList = some l := by
  rw [readElements, Lexeme.lex_spell (legible_of_mem_lexemesOf l true h) (separated_start h).tail,
    run_lexemesOf l true h]
  rfl

theorem read_render : ∀ {c : Condition}, c.IsLegible → read (Piece.render (.condition c)) = some c
  | { elements, connective := none }, h => by
    have hl : ConditionElement.AreLegible elements true := h
    have hrender : Piece.render (.condition { elements, connective := none }) = spell (lexemesOf elements) := by
      change (printElements elements {}).text = _
      rw [printElements_eq_push elements true hl]
      exact String.empty_append
    simp only [hrender, read, splitLead_of_head? (head?_spell hl), readElements_spell hl, Option.map_some]
  | { elements, connective := some c }, h => by
    have hl : ConditionElement.AreLegible elements true := h
    have hrender : Piece.render (.condition { elements, connective := some c }) =
        c.symbol ++ " " ++ spell (lexemesOf elements) := by
      change (printElements elements ((({} : Writer).push c.symbol).push " ")).text = _
      rw [printElements_eq_push elements true hl, Writer.push_push, Writer.push_push, String.append_assoc]
      exact String.empty_append
    simp only [hrender, read, splitLead_append, readElements_spell hl, Option.map_some]

/-- Conditions have the same text if and only if they are equal up to marks that do not show, and they are read back
from it. -/
theorem render_unambiguous {c d : Condition} (hc : c.plain.IsLegible) (hd : d.plain.IsLegible) :
    read (Piece.render (.condition c)) = some c.plain ∧
      (Piece.render (.condition c) = Piece.render (.condition d) ↔ c.plain = d.plain) ∧
      ∀ e : Condition, e.IsLegible → e.plain = e := by
  have hread := read_render hc
  have hread' := read_render hd
  rw [render_plain] at hread hread'
  refine ⟨hread, ⟨fun h => ?_, fun h => ?_⟩, fun _ => plain_of_isLegible⟩
  · rw [h] at hread
    exact Option.some.inj (hread.symm.trans hread')
  · rw [← render_plain c, h, render_plain]

def nested : Condition :=
  let equality (s t : String) : ConditionElement :=
    let comparison := { left := Fragment.ofText s, comparator := .equal, right := Fragment.ofText t }
    .clause { comparison, connective := none }
  let inner := { elements := [equality "y" "2"], connective := some .or }
  let outer := { elements := [equality "x" "1", .group inner], connective := some .and }
  { elements := [equality "ready" "true", .group outer], connective := none }

theorem render_unambiguous_nested :
    nested.plain.IsLegible ∧ nested.plain = nested ∧
      read "ready == true && (x == 1 || (y == 2))" = some nested := by
  have hc (s t : String) (hs : IsWord s) (ht : IsWord t) :
      Comparison.IsLegible { left := Fragment.ofText s, comparator := .equal, right := Fragment.ofText t } :=
    ⟨⟨s, hs, rfl⟩, { text := t }, ht, rfl⟩
  have hready := hc "ready" "true" (by decide) (by decide)
  have hx := hc "x" "1" (by decide) (by decide)
  have hy := hc "y" "2" (by decide) (by decide)
  have h : nested.IsLegible := ⟨rfl, hready, rfl, ⟨rfl, hx, rfl, ⟨rfl, hy, trivial⟩, trivial⟩, trivial⟩
  have hplain : nested.plain.IsLegible := h
  obtain ⟨hread, -, hsame⟩ := render_unambiguous hplain hplain
  exact ⟨hplain, hsame nested h, hread⟩

end Condition

end SwiftSource
