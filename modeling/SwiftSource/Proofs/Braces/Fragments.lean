import SwiftSource.Proofs.Braces.Scripts

/-! Braces nest in structured fragments. An instruction opens them, or the text with which a closure begins;
the same instruction closes either. -/

namespace SwiftSource

open Braces

section Order

variable {order : List Modifier}

namespace Fragment

def Nests (order : List Modifier) (f : Fragment) : Prop := ∀ isFirst, (Script.ofFragment order f isFirst).Nests

lemma nests_instruction {i : Instruction} (h : ∀ isFirst, (Script.ofInstruction order i isFirst).Nests) :
    Nests order [i] := by
  intro isFirst
  rw [Script.ofFragment_singleton]
  exact h isFirst

lemma Nests.append {f g : Fragment} (hf : Nests order f) (hg : Nests order g) : Nests order (f ++ g) := by
  intro isFirst
  rw [Script.ofFragment_append]
  exact (hf isFirst).append (hg _)

lemma Nests.between {f : Fragment} (h : Nests order f) (opening closing : Instruction)
    (ho : ∀ isFirst, Script.braceSteps (Script.ofInstruction order opening isFirst) = [1])
    (hc : ∀ isFirst, Script.braceSteps (Script.ofInstruction order closing isFirst) = [-1]) :
    Nests order ([opening] ++ (f ++ [closing])) := by
  intro isFirst
  rw [Script.ofFragment_append, Script.ofFragment_append, Script.ofFragment_singleton, Script.ofFragment_singleton]
  exact (h _).between (ho isFirst) (hc _)

lemma nests_token {t : Token} (h : Free t.text) : Nests order [.token t] :=
  nests_instruction fun isFirst => Script.nests_nil.text (t.free_written h isFirst)

lemma nests_flow (c : ControlFlow) : Nests order [c.instruction] := nests_token (by cases c <;> decide)

lemma Nests.nested {body : Fragment} (h : Nests order body) : Nests order [.nested body] :=
  nests_instruction fun _ => Script.nests_nextLine.append (h true)

lemma Nests.braced {body : Fragment} (h : Nests order body) : Nests order (braced body) :=
  h.nested.between .openBrace .closeBrace (fun _ => rfl) fun _ => rfl

lemma nests_inline {p : Piece} (h : (Script.ofPiece order p).Nests) : Nests order [.inline p] := by
  apply nests_instruction
  intro isFirst
  rw [Script.ofInstruction]
  split
  · exact h
  · exact h.text (by decide)

end Fragment

namespace Script

lemma nests_ofComparison (c : Comparison) (hl : Fragment.Nests order c.left) (hr : Fragment.Nests order c.right) :
    (ofComparison order c).Nests := by
  obtain ⟨left, comparator, right⟩ := c
  have hsymbol : Free comparator.symbol := by
    cases comparator <;> decide
  exact (hl true).append ((hr false).text (Token.free_written _ hsymbol _))

lemma nests_ofClause (c : Clause) (hl : Fragment.Nests order c.comparison.left)
    (hr : Fragment.Nests order c.comparison.right) : (ofClause order c).Nests := by
  have h := nests_ofComparison c.comparison hl hr
  obtain ⟨comparison, connective⟩ := c
  cases connective with
  | none => exact h
  | some connective => exact h.text (by cases connective <;> decide)

mutual

theorem nests_ofElement : ∀ e : ConditionElement, (∀ f ∈ e.operands, Fragment.Nests order f) →
    (ofElement order e).Nests
  | .clause c, h => by
    rw [ConditionElement.operands] at h
    exact nests_ofClause c (h _ List.mem_cons_self) (h _ (List.mem_cons_of_mem _ List.mem_cons_self))
  | .group c, h => by
    rw [ConditionElement.operands] at h
    exact nests_ofGroup c h

theorem nests_ofGroup : ∀ c : Condition, (∀ f ∈ c.operands, Fragment.Nests order f) → (ofGroup order c).Nests
  | { elements, connective := none }, h => by
    rw [Condition.operands] at h
    exact ((nests_ofElements elements h).append (nests_nil.text (by decide))).text (by decide)
  | { elements, connective := some c }, h => by
    rw [Condition.operands] at h
    exact (((nests_ofElements elements h).append (nests_nil.text (by decide))).text (by decide)).text
      (by cases c <;> decide)

theorem nests_ofElements : ∀ l : List ConditionElement,
    (∀ f ∈ Condition.elementOperands l, Fragment.Nests order f) → (ofElements order l).Nests
  | [], _ => nests_nil
  | e :: rest, h => by
    rw [Condition.elementOperands] at h
    rw [ofElements]
    exact (nests_ofElement e fun f hf => h f (List.mem_append_left _ hf)).append
      (nests_ofElements rest fun f hf => h f (List.mem_append_right _ hf))

end

lemma nests_ofCondition (c : Condition) (h : ∀ f ∈ c.operands, Fragment.Nests order f) :
    (ofCondition order c).Nests := by
  obtain ⟨elements, connective⟩ := c
  rw [Condition.operands] at h
  have helements := nests_ofElements elements h
  cases connective with
  | none => exact helements
  | some connective => exact (helements.text (by decide)).text (by cases connective <;> decide)

end Script

namespace Fragment

lemma nests_ofCondition (c : Condition) (h : ∀ f ∈ c.operands, Nests order f) : Nests order (ofCondition c) :=
  nests_inline (Script.nests_ofCondition c h)

lemma nests_optionalCondition (c : Option Condition) (h : ∀ x ∈ c, ∀ f ∈ x.operands, Nests order f) :
    Nests order (optionalCondition c) := by
  cases c with
  | none => exact fun _ => Script.nests_nil
  | some x => exact nests_ofCondition x (h x rfl)

lemma nests_switchCase {label body : Fragment} (hl : Nests order label) (hb : Nests order body) :
    Nests order (switchCase label body) := by
  have hmark : Nests order [.ofGlued ":"] := nests_token (by decide)
  have hindent : Nests order [.indent] := nests_instruction fun _ => Script.nests_nil.cons rfl
  have hunindent : Nests order [.unindent] := nests_instruction fun _ => Script.nests_nil.cons rfl
  exact hl.append (hmark.append (hindent.append (hb.nested.append hunindent)))

lemma nests_all {α : Type} {f : α → Instruction} {l : List α} (h : ∀ a ∈ l, Nests order [f a]) :
    Nests order (l.map f) := by
  induction l with
  | nil => exact fun _ => Script.nests_nil
  | cons a rest ih =>
    exact (h a List.mem_cons_self).append (ih fun b hb => h b (List.mem_cons_of_mem a hb))

lemma nests_switchOn {value : String} {cases : List (String × Fragment)} {default : Option Fragment}
    (hv : Free value) (hl : ∀ c ∈ cases, Free c.1) (hc : ∀ c ∈ cases, Nests order c.2)
    (hd : ∀ body ∈ default, Nests order body) : Nests order (switchOn value cases default) := by
  have hindent : Nests order [.indent] := nests_instruction fun _ => Script.nests_nil.cons rfl
  have hunindent : Nests order [.unindent] := nests_instruction fun _ => Script.nests_nil.cons rfl
  have hcases : Nests order (cases.map fun c => .nested (switchCase [.ofText "case", .ofText c.1] c.2)) := by
    apply nests_all
    intro c h
    have hlabel : Nests order [.ofText "case", .ofText c.1] :=
      (nests_token (by decide)).append (nests_token (hl c h))
    exact (nests_switchCase hlabel (hc c h)).nested
  have hdefault : Nests order
      (default.toList.map fun body => .nested (switchCase [.ofText "default"] body)) := by
    apply nests_all
    intro body h
    exact (nests_switchCase (nests_token (by decide)) (hd body (Option.mem_toList.mp h))).nested
  have hinner := hunindent.append (hcases.append (hdefault.append hindent))
  have hblock := hinner.between .openBrace .closeBrace (fun _ => rfl) fun _ => rfl
  have h := (nests_flow .switch).append ((nests_token (t := { text := value }) hv).append hblock)
  rw [switchOn]
  simpa only [Instruction.ofText, List.append_assoc, List.cons_append, List.nil_append] using h

lemma nests_closure {parameters : String} {throws : Bool} {returnType : Option String} {body : Fragment}
    (hp : Free parameters) (hr : ∀ t ∈ returnType, Free t) (hb : Nests order body) :
    Nests order (closure parameters throws returnType body) := by
  have hparameters : Nests order [.ofText ("(" ++ parameters ++ ")")] :=
    nests_token ((Free.append (by decide) hp).append (by decide))
  have hthrows : Nests order (if throws then [.ofText "throws"] else []) := by
    split
    · exact nests_token (by decide)
    · exact fun _ => Script.nests_nil
  have hreturn : Nests order [.ofText "->", .ofText (returnType.getD "Void")] := by
    refine (nests_token (by decide)).append (nests_token ?_)
    cases returnType with
    | none => decide
    | some t => exact hr t rfl
  have hindent : Nests order [.indent] := nests_instruction fun _ => Script.nests_nil.cons rfl
  have hinner := (hparameters.append hthrows).append
    (hreturn.append ((nests_flow .membership).append (hindent.append hb.nested)))
  -- No instruction opens this brace, its text does.
  have h := hinner.between (.ofText "\x7b") .closeBrace
    (fun isFirst => by cases isFirst <;> rfl) fun _ => rfl
  simpa only [closure, List.append_assoc, List.cons_append, List.nil_append] using h

theorem Structured.nests {f : Fragment} (h : Structured f) : Nests order f := by
  induction h with
  | empty => exact fun _ => Script.nests_nil
  | token h => exact nests_token h
  | line h => exact nests_instruction fun _ => Script.nests_nextLine.append (Script.nests_nil.text h)
  | newLine => exact nests_instruction fun _ => Script.nests_nil.text (by decide)
  | nextLine => exact nests_instruction fun _ => Script.nests_nextLine
  | nested _ ih => exact ih.nested
  | splice _ _ ihf ihg => exact ihf.append ihg
  | @comparison c _ _ ihl ihr => exact nests_inline (Script.nests_ofComparison c ihl ihr)
  | @clause c _ _ ihl ihr => exact nests_inline (Script.nests_ofClause c ihl ihr)
  | condition _ ih => exact nests_ofCondition _ ih
  | guardElse _ _ ihc ihb =>
    have helse := (nests_flow .otherwise).append ihb.braced
    exact (nests_flow .guarded).append ((nests_optionalCondition _ ihc).append helse)
  | ifThen _ _ ihc ihb =>
    exact (nests_flow .conditional).append ((nests_optionalCondition _ ihc).append ihb.braced)
  | elseIf _ _ ihc ihb =>
    exact (nests_flow .otherwiseIf).append ((nests_optionalCondition _ ihc).append ihb.braced)
  | otherwise _ ihb => exact (nests_flow .otherwise).append ihb.braced
  | whileDo _ _ ihc ihb => exact (nests_flow .whileLoop).append ((nests_optionalCondition _ ihc).append ihb.braced)
  | repeatWhile _ _ ihc ihb =>
    exact (nests_flow .repeatLoop).append (ihb.braced.append ((nests_flow .whileLoop).append (nests_ofCondition _ ihc)))
  | forIn hi hs _ ihb =>
    exact (nests_flow .forLoop).append ((nests_token hi).append ((nests_flow .membership).append
      ((nests_token hs).append ihb.braced)))
  | switchOn hv hl _ _ ihc ihd => exact nests_switchOn hv hl ihc ihd
  | closure hp hr _ ihb => exact nests_closure hp hr ihb
  | doCatch _ _ ihb ihh =>
    exact (nests_token (by decide)).append (ihb.braced.append ((nests_token (by decide)).append ihh.braced))

end Fragment

end Order

end SwiftSource
