import SwiftSource.Proofs.Script.Layout
import SwiftSource.Proofs.Braces.Structured
import SwiftSource.Proofs.Text.Lines

/-! Scripts whose braces nest, and the texts that declarations are made of. -/

namespace SwiftSource

open Braces Steps

namespace Token

lemma free_written (t : Token) (h : Free t.text) (isFirst : Bool) : Free (t.written isFirst) := by
  rw [written]
  split
  · exact h
  · exact Free.append (by decide) h

lemma free_joined {l : List Token} (h : ∀ t ∈ l, Free t.text) (isFirst : Bool) : Free (joined isFirst l) := by
  induction l generalizing isFirst with
  | nil => exact free_empty
  | cons t rest ih =>
    exact (t.free_written (h t List.mem_cons_self) isFirst).append
      (ih (fun u hu => h u (List.mem_cons_of_mem t hu)) false)

lemma steps_written (t : Token) (isFirst : Bool) : steps (t.written isFirst) = steps t.text := by
  rw [written]
  split
  · rfl
  · exact steps_append " " t.text

lemma steps_joined (l : List Token) (isFirst : Bool) :
    steps (joined isFirst l) = l.flatMap fun t => steps t.text := by
  induction l generalizing isFirst with
  | nil => exact free_empty.steps_eq
  | cons t rest ih => rw [joined, steps_append, steps_written, ih, List.flatMap_cons]

end Token

lemma TypeName.free_text {t : TypeName} (h : Free t.keyword) : Free t.text := by
  rw [text]
  split
  · exact h.append (by decide)
  · exact h

lemma TypeName.free_inheritanceClause {superType : Option TypeName} {protocols : List TypeName}
    (hs : ∀ s ∈ superType, Free s.keyword) (hp : ∀ p ∈ protocols, Free p.keyword) :
    Free (inheritanceClause superType protocols) := by
  have hall : ∀ t ∈ superType.toList ++ protocols, Free t.text := by
    intro t ht
    rcases List.mem_append.mp ht with h | h
    · exact free_text (hs t (Option.mem_toList.mp h))
    · exact free_text (hp t h)
  rw [inheritanceClause]
  generalize superType.toList ++ protocols = types at hall
  cases types with
  | nil => exact free_empty
  | cons t rest =>
    have hjoined : Free (", ".intercalate ((t :: rest).map text)) := by
      apply free_intercalate (by decide)
      intro s h
      obtain ⟨u, hu, rfl⟩ := List.mem_map.mp h
      exact hall u hu
    exact Free.append (by decide) hjoined

lemma Modifier.free_keyword (m : Modifier) : Free m.keyword := by
  cases m <;> decide

lemma Kind.free_keyword (k : Kind) : Free k.keyword := by
  cases k <;> decide

namespace Script

def Nests (s : Script) : Prop := Balanced (braceSteps s)

lemma nests_nil : Nests [] := balanced_nil

lemma Nests.append {s t : Script} (hs : Nests s) (ht : Nests t) : Nests (s ++ t) := by
  rw [Nests, braceSteps_append]
  exact Balanced.append hs ht

lemma Nests.cons {x : Stroke} {s : Script} (hs : Nests s) (hx : x.braceSteps = []) : Nests (x :: s) := by
  rw [Nests, braceSteps_cons, hx]
  exact hs

lemma Nests.text {t : String} {s : Script} (hs : Nests s) (ht : Free t) : Nests (.text t :: s) := hs.cons ht.steps_eq

lemma Nests.between {s opening closing : Script} (h : Nests s) (ho : braceSteps opening = [1])
    (hc : braceSteps closing = [-1]) : Nests (opening ++ (s ++ closing)) := by
  rw [Nests, braceSteps_append, braceSteps_append, ho, hc]
  exact Balanced.wrap h

lemma nests_nextLine : Nests nextLine := (nests_nil.cons rfl).text (by decide)

lemma Nests.braced {s : Script} (h : Nests s) : Nests (openBrace ++ (s ++ closeBrace)) := h.between rfl rfl

lemma nests_flatMap {α : Type} {f : α → Script} {l : List α} (h : ∀ a ∈ l, Nests (f a)) : Nests (l.flatMap f) := by
  rw [Nests, braceSteps, List.flatMap_assoc]
  exact Balanced.flatMap h

lemma nests_descriptionLines {description : String} (h : Free description) :
    (descriptionLines description).Nests := by
  refine nests_flatMap fun l hl => (nests_nil.text ?_).cons rfl
  refine Free.append (fun c hc => h c ?_) (by decide)
  rw [String.toList_ofList] at hc
  exact Text.mem_of_mem_lines hl hc

lemma Nests.blockComment {body : Script} (h : Nests body) : (blockComment body).Nests :=
  ((((nests_nil.text (by decide)).cons rfl).append h).append ((nests_nil.text (by decide)).cons rfl))

lemma nests_parameterSection {parameters : List Parameter} (h : ∀ p ∈ parameters, p.BraceFree) :
    (parameterSection parameters).Nests := by
  have hentries : Nests (parameters.flatMap parameterEntry) := by
    apply nests_flatMap
    intro p hp
    have hname : Free ("  - " ++ p.name) := Free.append (by decide) (h p hp).heading.name
    refine ((nests_nil.text (hname.append ?_)).cons rfl).text (by decide)
    cases hd : p.heading.description with
    | none => exact free_empty
    | some d => exact Free.append (by decide) ((h p hp).heading.description d hd)
  have htitle : Nests [.indentation 1, .text "- Parameters:"] := (nests_nil.text (by decide)).cons rfl
  exact (htitle.append hentries).append (nests_nil.text (by decide))

lemma nests_typeDocumentation {description : Option String} (h : ∀ d ∈ description, Free d) :
    (typeDocumentation description).Nests := by
  cases description with
  | none => exact nests_nil
  | some d => exact (nests_descriptionLines (h d rfl)).blockComment

lemma nests_fieldDocumentation {description : Option String} (h : ∀ d ∈ description, Free d) :
    (fieldDocumentation description).Nests := by
  cases description with
  | none => exact nests_nil
  | some d => exact (nests_nil.text ((Free.append (by decide) (h d rfl)).append (by decide))).cons rfl

lemma nests_methodDocumentation {description : Option String} {parameters : List Parameter}
    (hd : ∀ d ∈ description, Free d) (hp : ∀ p ∈ parameters, p.BraceFree) :
    (methodDocumentation description parameters).Nests := by
  have hsection := nests_parameterSection hp
  cases description with
  | none =>
    cases parameters with
    | nil => exact nests_nil
    | cons p rest => exact hsection.blockComment
  | some d =>
    have hlines := nests_descriptionLines (hd d rfl)
    cases parameters with
    | nil => exact hlines.blockComment
    | cons p rest => exact (hlines.append (hsection.text (by decide))).blockComment

lemma nests_modifiers (order : List Modifier) (s : ModifierSet) : (modifiers order s).Nests := by
  have hkeywords : Free (String.join ((({ modifierOrder := order } : Writer).orderedModifiers s).map
      fun m => m.keyword ++ " ")) := by
    apply free_join
    intro t h
    obtain ⟨m, -, rfl⟩ := List.mem_map.mp h
    exact m.free_keyword.append (by decide)
  exact (nests_nil.text hkeywords).cons rfl

end Script

end SwiftSource
