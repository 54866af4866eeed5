import SwiftSource.Proofs.Condition.Lexeme
import SwiftSource.Proofs.Script.Operations

/-!
Conditions between single words, and their lexemes. Main statements: such a condition is printed as its lexemes, and
between any two of them a reader can tell where the first one ends.
-/
namespace SwiftSource

open Lexeme (spell)

/-! ### Legible conditions -/

/-- Operands of a single word each, the left one without a mark. -/
def Comparison.IsLegible (c : Comparison) : Prop :=
  (∃ s, IsWord s ∧ c.left = Fragment.ofText s) ∧ ∃ t : Token, IsWord t.text ∧ c.right = [.token t]

def ConditionElement.connective : ConditionElement → Option Connective
  | .clause c => c.connective
  | .group c => c.connective

mutual

def ConditionElement.IsLegible : ConditionElement → Prop
  | .clause c => c.comparison.IsLegible
  | .group { elements, .. } => ConditionElement.AreLegible elements true

def ConditionElement.AreLegible : List ConditionElement → Bool → Prop
  | [], _ => True
  | e :: rest, isFirst =>
    e.connective.isNone = isFirst ∧ e.IsLegible ∧ ConditionElement.AreLegible rest false

end

/-- The first element of a legible condition and of its groups has no connective, and every later one has. -/
def Condition.IsLegible (c : Condition) : Prop := ConditionElement.AreLegible c.elements true

/-! ### Marks that do not show -/

/-- Without the mark of a left operand: nothing stands before it that it could be glued to. -/
def Comparison.plain : Comparison → Comparison
  | { left := [.token s], comparator, right } => { left := Fragment.ofText s.text, comparator, right }
  | c => c

mutual

def ConditionElement.plain : ConditionElement → ConditionElement
  | .clause { comparison, connective } => .clause { comparison := comparison.plain, connective }
  | .group { elements, connective } => .group { elements := Condition.plainElements elements, connective }

def Condition.plainElements : List ConditionElement → List ConditionElement
  | [] => []
  | e :: rest => e.plain :: Condition.plainElements rest

end

def Condition.plain (c : Condition) : Condition := { c with elements := plainElements c.elements }

lemma Comparison.print_plain (c : Comparison) (w : Writer) : c.plain.print w = c.print w := by
  unfold plain
  split <;> rfl

mutual

theorem ConditionElement.print_plain : ∀ (e : ConditionElement) (w : Writer), e.plain.print w = e.print w
  | .clause { comparison, connective := none }, w => comparison.print_plain w
  | .clause { comparison, connective := some c }, w => comparison.print_plain (w.push c.joiner)
  | .group { elements, connective := none }, w =>
    congrArg (Writer.push · ")") (Condition.printElements_plain elements (w.push "("))
  | .group { elements, connective := some c }, w =>
    congrArg (Writer.push · ")") (Condition.printElements_plain elements ((w.push c.joiner).push "("))

theorem Condition.printElements_plain : ∀ (l : List ConditionElement) (w : Writer),
    Condition.printElements (Condition.plainElements l) w = Condition.printElements l w
  | [], _ => rfl
  | e :: rest, w => by
    rw [Condition.plainElements, Condition.printElements, Condition.printElements, ConditionElement.print_plain e,
      Condition.printElements_plain rest]

end

lemma Condition.render_plain : ∀ c : Condition, Piece.render (.condition c.plain) = Piece.render (.condition c)
  | { elements, connective := none } => congrArg Writer.text (printElements_plain elements {})
  | { elements, connective := some c } =>
    congrArg Writer.text (printElements_plain elements ((({} : Writer).push c.symbol).push " "))

mutual

theorem ConditionElement.plain_of_isLegible : ∀ e : ConditionElement, e.IsLegible → e.plain = e
  | .clause { comparison := { left, comparator, right }, connective }, h => by
    obtain ⟨⟨s, -, rfl⟩, -⟩ := h
    rfl
  | .group { elements, connective }, h => by
    rw [ConditionElement.plain, Condition.plainElements_of_areLegible elements true h]

theorem Condition.plainElements_of_areLegible : ∀ (l : List ConditionElement) (isFirst : Bool),
    ConditionElement.AreLegible l isFirst → Condition.plainElements l = l
  | [], _, _ => rfl
  | e :: rest, _, ⟨_, he, hrest⟩ => by
    rw [Condition.plainElements, ConditionElement.plain_of_isLegible e he,
      Condition.plainElements_of_areLegible rest false hrest]

end

lemma Condition.plain_of_isLegible : ∀ {c : Condition}, c.IsLegible → c.plain = c
  | { elements, connective }, h => by rw [plain, plainElements_of_areLegible elements true h]

/-! ### Lexemes of a condition -/

def Comparison.lexemes : Comparison → List Lexeme
  | { left := [.token s], comparator, right := [.token t] } =>
    [.word s.text, .comparator comparator t.isGlued, .word t.text]
  | _ => []

mutual

def ConditionElement.lexemes : ConditionElement → List Lexeme
  | .clause { comparison, connective } => connective.toList.map Lexeme.connective ++ comparison.lexemes
  | .group { elements, connective } =>
    connective.toList.map Lexeme.connective ++ .opening :: Condition.lexemesOf elements ++ [.closing]

def Condition.lexemesOf : List ConditionElement → List Lexeme
  | [] => []
  | e :: rest => e.lexemes ++ Condition.lexemesOf rest

end

lemma Comparison.print_eq_push {c : Comparison} (h : c.IsLegible) (w : Writer) :
    c.print w = w.push (spell c.lexemes) := by
  obtain ⟨left, comparator, right⟩ := c
  obtain ⟨⟨s, -, rfl⟩, t, -, rfl⟩ := h
  have htokens : w.tokens true [{ text := s }, { text := comparator.symbol }, t] =
      w.push (s ++ (" " ++ comparator.symbol ++ (t.written false ++ ""))) :=
    w.tokens_eq_push true _
  have hright : t.written false = (if t.isGlued then "" else " ") ++ t.text := by
    rw [Token.written, Bool.false_or]
    split
    · rw [String.empty_append]
    · rfl
  rw [Comparison.print_eq_printFrom]
  refine (Fragment.printFrom_tokens _ true w).trans (htokens.trans ?_)
  rw [hright]
  simp only [Comparison.lexemes, Fragment.ofText, Instruction.ofText, Lexeme.spell_cons, Lexeme.text,
    String.append_assoc]
  rfl

lemma Writer.push_joiner (w : Writer) : ∀ connective : Option Connective,
    w.push (spell (connective.toList.map Lexeme.connective)) =
      match connective with
      | none => w
      | some c => w.push c.joiner
  | none => w.push_empty
  | some c => by
    rw [Option.toList_some, List.map_singleton, Lexeme.spell_cons]
    exact congrArg w.push String.append_empty

lemma Clause.print_eq_push : ∀ {c : Clause}, c.comparison.IsLegible → ∀ w : Writer,
    c.print w = w.push (spell (ConditionElement.clause c).lexemes)
  | { comparison, connective }, h, w => by
    have hc := comparison.print_eq_push h (w.push (spell (connective.toList.map Lexeme.connective)))
    rw [ConditionElement.lexemes, Lexeme.spell_append, ← w.push_push, ← hc, w.push_joiner]
    cases connective with
    | none => rfl
    | some c => rfl

mutual

theorem ConditionElement.print_eq_push : ∀ (e : ConditionElement), e.IsLegible → ∀ w : Writer,
    e.print w = w.push (spell e.lexemes)
  | .clause c, h, w => Clause.print_eq_push h w
  | .group { elements, connective }, h, w => by
    have hg := Condition.printElements_eq_push elements true h
    rw [ConditionElement.print, ConditionElement.lexemes, Lexeme.spell_append, Lexeme.spell_append, Lexeme.spell_cons,
      ← w.push_push, ← w.push_push, ← Writer.push_push, ← hg, w.push_joiner]
    cases connective with
    | none => rfl
    | some c => rfl

theorem Condition.printElements_eq_push : ∀ (l : List ConditionElement) (isFirst : Bool),
    ConditionElement.AreLegible l isFirst → ∀ w : Writer,
    Condition.printElements l w = w.push (spell (Condition.lexemesOf l))
  | [], _, _, w => w.push_empty.symm
  | e :: rest, _, ⟨_, he, hrest⟩, w => by
    rw [Condition.printElements, Condition.printElements_eq_push rest false hrest, ConditionElement.print_eq_push e he,
      w.push_push, Condition.lexemesOf, Lexeme.spell_append]

end

mutual

theorem ConditionElement.legible_of_mem_lexemes : ∀ (e : ConditionElement), e.IsLegible →
    ∀ x ∈ e.lexemes, x.IsLegible
  | .clause { comparison := { left, comparator, right }, connective }, h, x, hx => by
    obtain ⟨⟨s, hs, rfl⟩, t, ht, rfl⟩ := h
    rw [ConditionElement.lexemes, List.mem_append, List.mem_map] at hx
    obtain ⟨c, -, rfl⟩ | hx := hx
    · trivial
    · change x ∈ [.word s, .comparator comparator t.isGlued, .word t.text] at hx
      simp only [List.mem_cons, List.not_mem_nil, or_false] at hx
      obtain rfl | rfl | rfl := hx
      · exact hs
      · trivial
      · exact ht
  | .group { elements, connective }, h, x, hx => by
    simp only [ConditionElement.lexemes, List.mem_append, List.mem_map, List.mem_cons, List.not_mem_nil,
      or_false] at hx
    obtain (⟨c, -, rfl⟩ | rfl | hx) | rfl := hx
    · trivial
    · trivial
    · exact Condition.legible_of_mem_lexemesOf elements true h x hx
    · trivial

theorem Condition.legible_of_mem_lexemesOf : ∀ (l : List ConditionElement) (isFirst : Bool),
    ConditionElement.AreLegible l isFirst → ∀ x ∈ Condition.lexemesOf l, x.IsLegible
  | [], _, _, _, hx => nomatch hx
  | e :: rest, _, ⟨_, he, hrest⟩, x, hx => by
    rw [Condition.lexemesOf, List.mem_append] at hx
    obtain hx | hx := hx
    · exact ConditionElement.legible_of_mem_lexemes e he x hx
    · exact Condition.legible_of_mem_lexemesOf rest false hrest x hx

end

/-- No operator precedes a connective, and no word an element without one. -/
def Role.Precedes (p : Role) (isFirst : Bool) : Prop := p ≠ if isFirst then .word else .operator

lemma Role.separated_joiner {p q : Role} {rest : List Role} (connective : Option Connective)
    (hp : p.Precedes connective.isNone) (hq : q ≠ .operator) (h : (q :: rest).IsChain Separated) :
    (p :: ((connective.toList.map Lexeme.connective).map Lexeme.role ++ q :: rest)).IsChain Separated := by
  cases connective with
  | none =>
    have hpq : p.Separated q := by
      rintro rfl
      cases p with
      | word => exact absurd rfl hp
      | operator => exact absurd rfl hq
      | parenthesis => rfl
    exact List.isChain_cons_cons.mpr ⟨hpq, h⟩
  | some c =>
    have hpc : p.Separated .operator := fun he => absurd he hp
    have hcq : Role.operator.Separated q := fun he => absurd he.symm hq
    exact List.isChain_cons_cons.mpr ⟨hpc, List.isChain_cons_cons.mpr ⟨hcq, h⟩⟩

mutual

theorem ConditionElement.separated_lexemes : ∀ (e : ConditionElement), e.IsLegible →
    ∀ {p : Role} {rest : List Role}, p.Precedes e.connective.isNone → (Role.word :: rest).IsChain Role.Separated →
    (p :: (e.lexemes.map Lexeme.role ++ rest)).IsChain Role.Separated
  | .clause { comparison := { left, comparator, right }, connective }, h, p, rest, hp, hrest => by
    obtain ⟨⟨s, -, rfl⟩, t, -, rfl⟩ := h
    have hc : (Role.word :: .operator :: .word :: rest).IsChain Role.Separated :=
      List.isChain_cons_cons.mpr ⟨nofun, List.isChain_cons_cons.mpr ⟨nofun, hrest⟩⟩
    rw [ConditionElement.lexemes, List.map_append, List.append_assoc]
    exact Role.separated_joiner connective hp nofun hc
  | .group { elements, connective }, h, p, rest, hp, hrest => by
    have hclosing : (Role.parenthesis :: rest).IsChain Role.Separated := hrest.imp_head fun _ _ => rfl
    have hempty : (Role.parenthesis :: .parenthesis :: rest).IsChain Role.Separated :=
      List.isChain_cons_cons.mpr ⟨fun _ => rfl, hclosing⟩
    have hword : (Role.word :: .parenthesis :: rest).IsChain Role.Separated :=
      List.isChain_cons_cons.mpr ⟨nofun, hclosing⟩
    have hopening : Role.parenthesis.Precedes true := nofun
    have hg := Condition.separated_lexemesOf elements true h hopening hempty hword
    have hj := Role.separated_joiner connective hp (by decide) hg
    simpa [ConditionElement.lexemes, Lexeme.role] using hj

theorem Condition.separated_lexemesOf : ∀ (l : List ConditionElement) (isFirst : Bool),
    ConditionElement.AreLegible l isFirst → ∀ {p : Role} {rest : List Role}, p.Precedes isFirst →
    (p :: rest).IsChain Role.Separated → (Role.word :: rest).IsChain Role.Separated →
    (p :: ((Condition.lexemesOf l).map Lexeme.role ++ rest)).IsChain Role.Separated
  -- without elements, what follows them meets what precedes them
  | [], _, _, _, _, _, hpr, _ => hpr
  | e :: l, isFirst, ⟨hj, he, hl⟩, p, rest, hp, _, hrest => by
    have hword : Role.word.Precedes false := nofun
    have hafter := Condition.separated_lexemesOf l false hl hword hrest hrest
    rw [Condition.lexemesOf, List.map_append, List.append_assoc]
    exact ConditionElement.separated_lexemes e he (hj ▸ hp) hafter

end

lemma Condition.separated_start {l : List ConditionElement} (h : ConditionElement.AreLegible l true) :
    (Role.operator :: (Condition.lexemesOf l).map Lexeme.role).IsChain Role.Separated := by
  have hp : Role.operator.Precedes true := nofun
  have hs := Condition.separated_lexemesOf l true h hp (.singleton _) (.singleton _)
  rwa [List.append_nil] at hs

lemma Condition.head?_spell {l : List ConditionElement} (h : ConditionElement.AreLegible l true) :
    ∀ c ∈ (spell (Condition.lexemesOf l)).toList.head?, Role.ofChar c ≠ .operator := by
  intro c hc hop
  have hl := Condition.legible_of_mem_lexemesOf l true h
  have hs := Condition.separated_start h
  cases hx : Condition.lexemesOf l with
  | nil =>
    rw [hx] at hc
    exact nomatch hc
  | cons x rest =>
    rw [hx] at hc hl hs
    have hrun := (hl x List.mem_cons_self).isRun
    rw [Lexeme.spell_cons, String.toList_append, List.head?_append_of_ne_nil _ hrun.ne_nil] at hc
    have hrole := hrun.role_eq c (List.mem_of_mem_head? hc)
    have he := (List.isChain_cons_cons.mp hs).1 (hop.symm.trans hrole)
    exact nomatch he

end SwiftSource
