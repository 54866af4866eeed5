import SwiftSource.Proofs.Script.Operations

/-! Scripts of fragments and declarations. Main statement: whatever is printed is the run of one script, which
the order of modifiers decides together with the printed value. -/

namespace SwiftSource

def Parameter.text (p : Parameter) : String := Token.joined true p.tokens

lemma Parameter.print_eq_push (p : Parameter) (w : Writer) : p.print w = w.push p.text := w.tokens_eq_push true p.tokens

namespace Method

lemma parameterClause_eq (m : Method) (w : Writer) :
    m.parameterClause w = "(" ++ ", ".intercalate (m.parameters.map Parameter.text) ++ ")" := by
  have h : ∀ p : Parameter, (p.print w.fresh).text = p.text := by
    intro p
    rw [p.print_eq_push]
    exact String.empty_append
  simp only [parameterClause, h]

lemma signature_eq (m : Method) (w v : Writer) : m.signature w = m.signature v := by
  simp only [signature, parameterClause_eq]

end Method

namespace Script

variable (order : List Modifier)

mutual

def ofInstruction : Instruction → Bool → Script
  | .token t, isFirst => [.text (t.written isFirst)]
  | .openBrace, _ => openBrace
  | .closeBrace, _ => closeBrace
  | .newLine, _ => [.text "\n"]
  | .nextLine, _ => nextLine
  | .indent, _ => [.deeper]
  | .unindent, _ => [.higher]
  | .line text, _ => nextLine ++ [.text text]
  | .inline piece, isFirst => (if isFirst then [] else [.text " "]) ++ ofPiece piece
  | .nested body, _ => nextLine ++ ofFragment body true

def ofFragment : List Instruction → Bool → Script
  | [], _ => []
  | i :: rest, isFirst => ofInstruction i isFirst ++ ofFragment rest (isFirst && i.isNested)

def ofPiece : Piece → Script
  | .fragment body => ofFragment body true
  | .comparison c => ofComparison c
  | .clause c => ofClause c
  | .condition c => ofCondition c
  | .parameter p => [.text p.text]
  | .field f => ofField f f.parentHint
  | .method m => ofMethod m m.parentHint
  | .type t => ofType t

def ofComparison : Comparison → Script
  | { left, comparator, right } =>
    ofFragment left true ++ .text (Token.written (Fragment.onlyNests left) { text := comparator.symbol }) ::
      ofFragment right false

def ofClause : Clause → Script
  | { comparison, connective := none } => ofComparison comparison
  | { comparison, connective := some c } => .text c.joiner :: ofComparison comparison

def ofElement : ConditionElement → Script
  | .clause c => ofClause c
  | .group c => ofGroup c

def ofGroup : Condition → Script
  | { elements, connective := none } => .text "(" :: ofElements elements ++ [.text ")"]
  | { elements, connective := some c } => .text c.joiner :: .text "(" :: ofElements elements ++ [.text ")"]

def ofCondition : Condition → Script
  | { elements, connective := none } => ofElements elements
  | { elements, connective := some c } => .text c.symbol :: .text " " :: ofElements elements

def ofElements : List ConditionElement → Script
  | [] => []
  | e :: rest => ofElement e ++ ofElements rest

def ofValue : Option (List Instruction) → Script
  | none => []
  | some body => .text (Token.written false { text := "=" }) :: ofFragment body false

def ofGetter : Option (List Instruction) → Script
  | none => []
  | some body => openBrace ++ nextLine ++ ofFragment body true ++ closeBrace

def ofField : Field → Option Kind → Script
  | f@{ heading, initializer, .. }, parent =>
    fieldDocumentation heading.description ++
      if parent = some .enumType ∧ ¬ f.isMutable then
        .indentation 0 :: .text (Token.joined true [{ text := "case" }, { text := heading.name }]) ::
          ofValue initializer
      else
        modifiers order heading.modifiers ++
          if parent = some .protocolType then [.text (Token.joined true (f.signature .mutable ++ [f.accessors]))]
          else
            .text (Token.joined true (f.signature heading.kind)) ::
              if f.isComputedIn parent then ofGetter initializer else ofValue initializer

def ofMethod : Method → Option Kind → Script
  | m@{ heading, parameters, body, .. }, parent =>
    methodDocumentation heading.description parameters ++ modifiers order m.leadingModifiers ++
      .text (Token.joined true (m.signature {})) ::
        if parent = some .protocolType then [] else openBrace ++ ofFragment body true ++ closeBrace

def ofFields : List Field → Kind → Bool → Script
  | [], _, _ => []
  | f :: rest, kind, isFirst =>
    (if isFirst then [] else [.text "\n"]) ++ ofField f (some kind) ++ ofFields rest kind false

def ofMethods : List Method → Kind → Script
  | [], _ => []
  | m :: rest, kind => .text "\n" :: ofMethod m (some kind) ++ .text "\n" :: ofMethods rest kind

def ofType : TypeDeclaration → Script
  | { heading, methods, fields, superType, protocols } =>
    typeDocumentation heading.description ++ modifiers order heading.modifiers ++
      .text (Token.joined true [{ text := heading.kind.keyword }, { text := heading.name }]) ::
      .text (TypeName.inheritanceClause superType protocols) :: openBrace ++ .text "\n" ::
      ofFields fields heading.kind true ++ (if methods.isEmpty then [] else [.text "\n"]) ++
      ofMethods methods heading.kind ++ closeBrace

end

lemma ofFragment_append (f g : Fragment) (isFirst : Bool) :
    ofFragment order (f ++ g) isFirst =
      ofFragment order f isFirst ++ ofFragment order g (isFirst && Fragment.onlyNests f) := by
  induction f generalizing isFirst with
  | nil =>
    rw [ofFragment, Fragment.onlyNests, List.all_nil, Bool.and_true]
    rfl
  | cons i rest ih =>
    have hnested : Fragment.onlyNests (i :: rest) = (i.isNested && Fragment.onlyNests rest) := List.all_cons
    rw [List.cons_append, ofFragment, ofFragment, ih, hnested, Bool.and_assoc, List.append_assoc]

lemma ofFragment_singleton (i : Instruction) (isFirst : Bool) :
    ofFragment order [i] isFirst = ofInstruction order i isFirst := by
  rw [ofFragment, ofFragment, List.append_nil]

end Script

mutual

theorem Instruction.print_eq_run : ∀ (i : Instruction) (isFirst : Bool) (w : Writer),
    i.print isFirst w = w.run (Script.ofInstruction w.modifierOrder i isFirst)
  | .token t, isFirst, w => by
    rw [Instruction.print, Script.ofInstruction, w.token_eq_push, w.push_eq_run]
  | .openBrace, _, w => rfl
  | .closeBrace, _, w => rfl
  | .newLine, _, w => rfl
  | .nextLine, _, w => rfl
  | .indent, _, w => rfl
  | .unindent, _, w => rfl
  | .line text, _, w => rfl
  | .inline piece, isFirst, w => by
    rw [Instruction.print, Script.ofInstruction, Piece.print_eq_run]
    cases isFirst with
    | true => rfl
    | false => rfl
  | .nested body, _, w => by
    rw [Instruction.print, Script.ofInstruction, Fragment.printFrom_eq_run, w.nextLine_eq_run, Writer.run_run,
      Writer.run_modifierOrder]

theorem Fragment.printFrom_eq_run : ∀ (f : List Instruction) (isFirst : Bool) (w : Writer),
    Fragment.printFrom f isFirst w = w.run (Script.ofFragment w.modifierOrder f isFirst)
  | [], _, w => rfl
  | i :: rest, isFirst, w => by
    rw [Fragment.printFrom, Script.ofFragment, Fragment.printFrom_eq_run, Instruction.print_eq_run, Writer.run_run,
      Writer.run_modifierOrder]

theorem Piece.print_eq_run : ∀ (p : Piece) (w : Writer), p.print w = w.run (Script.ofPiece w.modifierOrder p)
  | .fragment body, w => Fragment.printFrom_eq_run body true w
  | .comparison c, w => Comparison.print_eq_run c w
  | .clause c, w => Clause.print_eq_run c w
  | .condition c, w => Condition.print_eq_run c w
  | .parameter p, w => p.print_eq_push w
  | .field f, w => Field.printIn_eq_run f f.parentHint w
  | .method m, w => Method.printIn_eq_run m m.parentHint w
  | .type t, w => TypeDeclaration.print_eq_run t w

theorem Comparison.print_eq_run : ∀ (c : Comparison) (w : Writer),
    c.print w = w.run (Script.ofComparison w.modifierOrder c)
  | { left, comparator, right }, w => by
    simp only [Comparison.print, Script.ofComparison, Fragment.printFrom_eq_run, Writer.token_eq_push,
      Writer.push_eq_run, Writer.run_run, Writer.run_modifierOrder, List.append_assoc, List.cons_append,
      List.nil_append]

theorem Clause.print_eq_run : ∀ (c : Clause) (w : Writer), c.print w = w.run (Script.ofClause w.modifierOrder c)
  | { comparison, connective := none }, w => Comparison.print_eq_run comparison w
  | { comparison, connective := some c }, w => Comparison.print_eq_run comparison (w.push c.joiner)

theorem ConditionElement.print_eq_run : ∀ (e : ConditionElement) (w : Writer),
    e.print w = w.run (Script.ofElement w.modifierOrder e)
  | .clause c, w => Clause.print_eq_run c w
  | .group c, w => Condition.printGroup_eq_run c w

theorem Condition.printGroup_eq_run : ∀ (c : Condition) (w : Writer),
    c.printGroup w = w.run (Script.ofGroup w.modifierOrder c)
  | { elements, connective := none }, w => by
    rw [Condition.printGroup, Script.ofGroup, Condition.printElements_eq_run, Writer.push_eq_run, Writer.push_eq_run,
      Writer.run_run, Writer.run_run]
    rfl
  | { elements, connective := some c }, w => by
    rw [Condition.printGroup, Script.ofGroup, Condition.printElements_eq_run, Writer.push_eq_run, Writer.push_eq_run,
      Writer.push_eq_run, Writer.run_run, Writer.run_run, Writer.run_run]
    rfl

theorem Condition.print_eq_run : ∀ (c : Condition) (w : Writer),
    c.print w = w.run (Script.ofCondition w.modifierOrder c)
  | { elements, connective := none }, w => Condition.printElements_eq_run elements w
  | { elements, connective := some c }, w => Condition.printElements_eq_run elements ((w.push c.symbol).push " ")

theorem Condition.printElements_eq_run : ∀ (l : List ConditionElement) (w : Writer),
    Condition.printElements l w = w.run (Script.ofElements w.modifierOrder l)
  | [], w => rfl
  | e :: rest, w => by
    rw [Condition.printElements, Script.ofElements, Condition.printElements_eq_run, ConditionElement.print_eq_run,
      Writer.run_run, Writer.run_modifierOrder]

theorem Field.printValue_eq_run : ∀ (initializer : Option (List Instruction)) (w : Writer),
    Field.printValue initializer w = w.run (Script.ofValue w.modifierOrder initializer)
  | none, w => rfl
  | some body, w => by
    rw [Field.printValue, Script.ofValue, Fragment.printFrom_eq_run, Writer.token_eq_push, Writer.push_eq_run,
      Writer.run_run]
    rfl

theorem Field.printGetter_eq_run : ∀ (initializer : Option (List Instruction)) (w : Writer),
    Field.printGetter initializer w = w.run (Script.ofGetter w.modifierOrder initializer)
  | none, w => rfl
  | some body, w => by
    simp only [Field.printGetter, Script.ofGetter, Fragment.printFrom_eq_run, Writer.openBrace_eq_run,
      Writer.nextLine_eq_run, Writer.closeBrace_eq_run, Writer.run_run, Writer.run_modifierOrder]

theorem Field.printIn_eq_run : ∀ (f : Field) (parent : Option Kind) (w : Writer),
    f.printIn parent w = w.run (Script.ofField w.modifierOrder f parent)
  | f@{ heading, initializer, .. }, parent, w => by
    simp only [Field.printIn, Script.ofField, Field.printValue_eq_run, Field.printGetter_eq_run, Writer.tokens_eq_run,
      Writer.modifiers_eq_run, Writer.pushIndentation_eq_run, Writer.fieldDocumentation_eq_run, Writer.run_run,
      Writer.run_modifierOrder, List.append_assoc, List.cons_append, List.nil_append]
    split
    · rfl
    · split
      · rfl
      · split <;> rfl

theorem Method.printIn_eq_run : ∀ (m : Method) (parent : Option Kind) (w : Writer),
    m.printIn parent w = w.run (Script.ofMethod w.modifierOrder m parent)
  | m@{ heading, parameters, body, .. }, parent, w => by
    simp only [Method.printIn, Script.ofMethod, Fragment.printFrom_eq_run, Writer.tokens_eq_run,
      Writer.modifiers_eq_run, Writer.methodDocumentation_eq_run, Writer.openBrace_eq_run, Writer.closeBrace_eq_run,
      Writer.run_run, Writer.run_modifierOrder, List.append_assoc, Method.signature_eq _ (w.run _) {}]
    split
    · rfl
    · rfl

theorem TypeDeclaration.printFields_eq_run : ∀ (l : List Field) (kind : Kind) (isFirst : Bool) (w : Writer),
    TypeDeclaration.printFields l kind isFirst w = w.run (Script.ofFields w.modifierOrder l kind isFirst)
  | [], _, _, w => rfl
  | f :: rest, kind, isFirst, w => by
    rw [TypeDeclaration.printFields, Script.ofFields, TypeDeclaration.printFields_eq_run, Field.printIn_eq_run,
      Writer.run_run, Writer.run_modifierOrder]
    cases isFirst <;> rfl

theorem TypeDeclaration.printMethods_eq_run : ∀ (l : List Method) (kind : Kind) (w : Writer),
    TypeDeclaration.printMethods l kind w = w.run (Script.ofMethods w.modifierOrder l kind)
  | [], _, w => rfl
  | m :: rest, kind, w => by
    simp only [TypeDeclaration.printMethods, Script.ofMethods, TypeDeclaration.printMethods_eq_run,
      Method.printIn_eq_run, Writer.newLine_eq_run, Writer.run_run, Writer.run_modifierOrder, List.append_assoc,
      List.cons_append, List.nil_append]

theorem TypeDeclaration.print_eq_run : ∀ (t : TypeDeclaration) (w : Writer),
    t.print w = w.run (Script.ofType w.modifierOrder t)
  | { heading, methods, fields, superType, protocols }, w => by
    simp only [TypeDeclaration.print, Script.ofType, TypeDeclaration.printFields_eq_run,
      TypeDeclaration.printMethods_eq_run, Writer.typeDocumentation_eq_run, Writer.modifiers_eq_run,
      Writer.tokens_eq_run, Writer.inheritance_eq_push, Writer.push_eq_run, Writer.openBrace_eq_run,
      Writer.newLine_eq_run, Writer.closeBrace_eq_run, Writer.run_run, Writer.run_modifierOrder]
    split
    · simp
    · simp

end

namespace Fragment

lemma appends_printFrom (f : Fragment) (isFirst : Bool) : Writer.Appends (printFrom f isFirst) :=
  Writer.appends_of_run (fun order => Script.ofFragment order f isFirst) (printFrom_eq_run f isFirst)

lemma appends_print (f : Fragment) : Writer.Appends f.print := f.appends_printFrom true

end Fragment

end SwiftSource
