import SwiftSource.Declaration.Draft
import SwiftSource.Proofs.Script.LaysOut

/-! What a type does not show of its members. A member of a type is printed for that type, so its own hint has no
effect, and a protocol shows neither bodies nor values, whatever they would do to the level. -/

namespace SwiftSource

open Steps

namespace Field

def withoutHint (f : Field) : Field := { f with parentHint := none }

def requirement (f : Field) : Field := { f with initializer := none, isComputed := false, parentHint := none }

lemma printIn_withoutHint (f : Field) (parent : Option Kind) (w : Writer) :
    f.withoutHint.printIn parent w = f.printIn parent w := by
  cases f
  rfl

lemma printIn_requirement (f : Field) (w : Writer) :
    f.requirement.printIn (some .protocolType) w = f.printIn (some .protocolType) w := by
  cases f
  rfl

end Field

namespace Method

def withoutHint (m : Method) : Method := { m with parentHint := none }

def requirement (m : Method) : Method := { m with body := [], parentHint := none }

lemma printIn_withoutHint (m : Method) (parent : Option Kind) (w : Writer) :
    m.withoutHint.printIn parent w = m.printIn parent w := by
  cases m
  rfl

lemma printIn_requirement (m : Method) (w : Writer) :
    m.requirement.printIn (some .protocolType) w = m.printIn (some .protocolType) w := by
  cases m
  rfl

end Method

namespace TypeDeclaration

variable {kind : Kind}

lemma printFields_map {g : Field → Field} (h : ∀ f w, (g f).printIn (some kind) w = f.printIn (some kind) w)
    (l : List Field) (isFirst : Bool) (w : Writer) :
    printFields (l.map g) kind isFirst w = printFields l kind isFirst w := by
  induction l generalizing isFirst w with
  | nil => rfl
  | cons f rest ih => rw [List.map_cons, printFields, printFields, ih, h]

lemma printMethods_map {g : Method → Method} (h : ∀ m w, (g m).printIn (some kind) w = m.printIn (some kind) w)
    (l : List Method) (w : Writer) : printMethods (l.map g) kind w = printMethods l kind w := by
  induction l generalizing w with
  | nil => rfl
  | cons m rest ih => rw [List.map_cons, printMethods, printMethods, ih, h]

def mapMembers (t : TypeDeclaration) (onField : Field → Field) (onMethod : Method → Method) : TypeDeclaration :=
  { t with fields := t.fields.map onField, methods := t.methods.map onMethod }

lemma print_mapMembers (t : TypeDeclaration) {onField : Field → Field} {onMethod : Method → Method}
    (hf : ∀ f w, (onField f).printIn (some t.heading.kind) w = f.printIn (some t.heading.kind) w)
    (hm : ∀ m w, (onMethod m).printIn (some t.heading.kind) w = m.printIn (some t.heading.kind) w) (w : Writer) :
    (t.mapMembers onField onMethod).print w = t.print w := by
  obtain ⟨heading, methods, fields, superType, protocols⟩ := t
  rw [mapMembers, print, print, printFields_map hf, printMethods_map hm, List.isEmpty_map]

def withoutHints (t : TypeDeclaration) : TypeDeclaration := t.mapMembers Field.withoutHint Method.withoutHint

def requirements (t : TypeDeclaration) : TypeDeclaration := t.mapMembers Field.requirement Method.requirement

lemma print_withoutHints (t : TypeDeclaration) (w : Writer) : t.withoutHints.print w = t.print w :=
  t.print_mapMembers (fun f => f.printIn_withoutHint _) (fun m => m.printIn_withoutHint _) w

lemma print_requirements (t : TypeDeclaration) (h : t.heading.kind = .protocolType) (w : Writer) :
    t.requirements.print w = t.print w := by
  apply print_mapMembers
  · rw [h]
    exact Field.printIn_requirement
  · rw [h]
    exact Method.printIn_requirement

lemma changes_of_protocol (t : TypeDeclaration) (h : t.heading.kind = .protocolType) : t.changes = [1, -1] := by
  have hf : ∀ f ∈ t.fields, f.changesIn (some t.heading.kind) = [] := by
    intro f _
    rw [h, Field.changesIn_eq, if_neg (by simp), if_pos rfl]
  have hm : ∀ m ∈ t.methods, m.changesIn (some t.heading.kind) = [] := by
    intro m _
    rw [h, Method.changesIn_eq, if_pos rfl]
  rw [changes_eq, List.flatMap_eq_nil_iff.mpr hf, List.flatMap_eq_nil_iff.mpr hm]
  rfl

lemma level_print_of_protocol (t : TypeDeclaration) (h : t.heading.kind = .protocolType) {w : Writer}
    (hl : w.level < Writer.deepest) : (t.print w).level = w.level := by
  have hchanges : (Piece.type t).changes = [1, -1] := t.changes_of_protocol h
  have hbalanced : Balanced (Piece.type t).changes := by
    rw [hchanges]
    decide
  have hroom : StaysWithin Writer.deepest w.level (Piece.type t).changes := by
    rw [hchanges]
    refine forall_prefix_cons.mpr ⟨by simpa using hl.le, forall_prefix_cons.mpr ⟨?_, fun p hp => ?_⟩⟩
    · rw [List.sum_cons, List.sum_nil]
      omega
    · rw [List.prefix_nil.mp hp, List.sum_cons, List.sum_cons, List.sum_nil]
      omega
  have hlays := (Script.laysOut_piece (w := w) hbalanced).spells
  rw [Script.changes_ofPiece] at hlays
  have hprint : (Piece.type t).print w = w.push _ := (Piece.print_eq_run _ w).trans (hlays hroom w rfl rfl rfl)
  change ((Piece.type t).print w).level = w.level
  rw [hprint]
  rfl

theorem print_hides (s t : TypeDeclaration) (w : Writer) :
    (s.withoutHints = t.withoutHints → s.print w = t.print w) ∧
    (s.heading.kind = .protocolType → s.requirements = t.requirements →
      s.print w = t.print w ∧
        (w.level < Writer.deepest → (s.print w).level = w.level ∧ (t.print w).level = w.level)) := by
  constructor
  · intro h
    rw [← s.print_withoutHints, h, t.print_withoutHints]
  · intro hs h
    have ht : t.heading.kind = .protocolType := by
      have hheading := congrArg heading h
      change s.heading = t.heading at hheading
      rwa [← hheading]
    refine ⟨?_, fun hl => ⟨s.level_print_of_protocol hs hl, t.level_print_of_protocol ht hl⟩⟩
    rw [← s.print_requirements hs, h, t.print_requirements ht]

theorem print_hides_unbalanced :
    let protocolOf (f : Field) (m : Method) : TypeDeclaration :=
      (((TypeDraft.named "store" .protocolType).addField f).addMethod m).build
    let quiet := protocolOf (.named "count") (.named "load")
    let loud := protocolOf ((Field.named "count").initialized [.indent]).computed
      (((Method.named "load").withCode [.unindent, .closeBrace]).within .enumType)
    let w : Writer := { level := 2 }
    quiet.print w = loud.print w ∧ (loud.print w).level = 2 := by
  intro protocolOf quiet loud w
  have hrequirements : quiet.requirements = loud.requirements := rfl
  obtain ⟨hprint, hlevel⟩ := (print_hides quiet loud w).2 rfl hrequirements
  exact ⟨hprint, (hlevel (by decide)).2⟩

end TypeDeclaration

end SwiftSource
