import SwiftSource.Proofs.Script.Layout

/-! The changes of level in fragments and declarations, in the order in which they are printed. -/

namespace SwiftSource

mutual

def Instruction.changes : Instruction → List Int
  | .openBrace | .indent => [1]
  | .closeBrace | .unindent => [-1]
  | .token _ | .newLine | .nextLine | .line _ => []
  | .inline piece => piece.changes
  | .nested body => Fragment.changes body

def Fragment.changes : List Instruction → List Int
  | [] => []
  | i :: rest => i.changes ++ Fragment.changes rest

def Piece.changes : Piece → List Int
  | .fragment body => Fragment.changes body
  | .comparison c => c.changes
  | .clause c => c.changes
  | .condition c => c.changes
  | .parameter _ => []
  | .field f => f.changesIn f.parentHint
  | .method m => m.changesIn m.parentHint
  | .type t => t.changes

def Comparison.changes : Comparison → List Int
  | { left, right, .. } => Fragment.changes left ++ Fragment.changes right

def Clause.changes : Clause → List Int
  | { comparison, .. } => comparison.changes

def ConditionElement.changes : ConditionElement → List Int
  | .clause c => c.changes
  | .group c => c.changes

def Condition.changes : Condition → List Int
  | { elements, .. } => Condition.elementChanges elements

def Condition.elementChanges : List ConditionElement → List Int
  | [] => []
  | e :: rest => e.changes ++ Condition.elementChanges rest

def Field.valueChanges : Option (List Instruction) → List Int
  | none => []
  | some body => Fragment.changes body

def Field.getterChanges : Option (List Instruction) → List Int
  | none => []
  | some body => 1 :: (Fragment.changes body ++ [-1])

def Field.changesIn : Field → Option Kind → List Int
  | f@{ initializer, .. }, parent =>
    if parent = some .enumType ∧ ¬ f.isMutable then Field.valueChanges initializer
    else if parent = some .protocolType then []
    else if f.isComputedIn parent then Field.getterChanges initializer
    else Field.valueChanges initializer

def Method.changesIn : Method → Option Kind → List Int
  | { body, .. }, parent =>
    if parent = some .protocolType then [] else 1 :: (Fragment.changes body ++ [-1])

def TypeDeclaration.fieldChanges : List Field → Kind → List Int
  | [], _ => []
  | f :: rest, kind => f.changesIn (some kind) ++ TypeDeclaration.fieldChanges rest kind

def TypeDeclaration.methodChanges : List Method → Kind → List Int
  | [], _ => []
  | m :: rest, kind => m.changesIn (some kind) ++ TypeDeclaration.methodChanges rest kind

def TypeDeclaration.changes : TypeDeclaration → List Int
  | { heading, methods, fields, .. } =>
    1 :: (TypeDeclaration.fieldChanges fields heading.kind ++ TypeDeclaration.methodChanges methods heading.kind ++
      [-1])

end

lemma Field.changesIn_eq (f : Field) (parent : Option Kind) :
    f.changesIn parent =
      if parent = some .enumType ∧ ¬ f.isMutable then Field.valueChanges f.initializer
      else if parent = some .protocolType then []
      else if f.isComputedIn parent then Field.getterChanges f.initializer
      else Field.valueChanges f.initializer := by
  cases f
  rfl

lemma Method.changesIn_eq (m : Method) (parent : Option Kind) :
    m.changesIn parent = if parent = some .protocolType then [] else 1 :: (Fragment.changes m.body ++ [-1]) := by
  cases m
  rfl

namespace TypeDeclaration

lemma fieldChanges_eq (l : List Field) (kind : Kind) :
    fieldChanges l kind = l.flatMap fun f => f.changesIn (some kind) := by
  induction l with
  | nil => rfl
  | cons f rest ih => rw [fieldChanges, List.flatMap_cons, ih]

lemma methodChanges_eq (l : List Method) (kind : Kind) :
    methodChanges l kind = l.flatMap fun m => m.changesIn (some kind) := by
  induction l with
  | nil => rfl
  | cons m rest ih => rw [methodChanges, List.flatMap_cons, ih]

lemma changes_eq (t : TypeDeclaration) :
    t.changes = 1 :: ((t.fields.flatMap fun f => f.changesIn (some t.heading.kind)) ++
      (t.methods.flatMap fun m => m.changesIn (some t.heading.kind)) ++ [-1]) := by
  cases t
  rw [changes, fieldChanges_eq, methodChanges_eq]

end TypeDeclaration

namespace Script

@[simp] lemma changes_openBrace : changes openBrace = [1] := rfl

@[simp] lemma changes_closeBrace : changes closeBrace = [-1] := rfl

@[simp] lemma changes_nextLine : changes nextLine = [] := rfl

@[simp] lemma changes_modifiers (order : List Modifier) (s : ModifierSet) : changes (modifiers order s) = [] := rfl

lemma changes_blockComment {s : Script} (h : changes s = []) : changes (blockComment s) = [] := by
  simp [blockComment, h, Stroke.changes]

lemma changes_descriptionLines (description : String) : changes (descriptionLines description) = [] := by
  simp [descriptionLines, changes_flatMap, Stroke.changes]

lemma changes_parameterSection (parameters : List Parameter) : changes (parameterSection parameters) = [] := by
  simp [parameterSection, parameterEntry, changes_flatMap, Stroke.changes]

@[simp] lemma changes_typeDocumentation (description : Option String) :
    changes (typeDocumentation description) = [] := by
  cases description with
  | none => rfl
  | some d => exact changes_blockComment (changes_descriptionLines d)

@[simp] lemma changes_fieldDocumentation (description : Option String) :
    changes (fieldDocumentation description) = [] := by
  cases description <;> rfl

@[simp] lemma changes_methodDocumentation (description : Option String) (parameters : List Parameter) :
    changes (methodDocumentation description parameters) = [] := by
  have hp := changes_parameterSection parameters
  cases description with
  | none =>
    cases parameters with
    | nil => rfl
    | cons p rest => exact changes_blockComment hp
  | some d =>
    have hd := changes_descriptionLines d
    cases parameters with
    | nil => exact changes_blockComment hd
    | cons p rest =>
      apply changes_blockComment
      rw [changes_append, changes_cons, hd, hp]
      rfl

end Script

namespace Script

variable (order : List Modifier)

mutual

theorem changes_ofInstruction : ∀ (i : Instruction) (isFirst : Bool),
    changes (ofInstruction order i isFirst) = i.changes
  | .token t, isFirst => rfl
  | .openBrace, _ => rfl
  | .closeBrace, _ => rfl
  | .newLine, _ => rfl
  | .nextLine, _ => rfl
  | .indent, _ => rfl
  | .unindent, _ => rfl
  | .line text, _ => rfl
  | .inline piece, isFirst => by
    rw [ofInstruction, Instruction.changes, changes_append, changes_ofPiece]
    cases isFirst <;> rfl
  | .nested body, _ => by
    rw [ofInstruction, Instruction.changes, changes_append, changes_ofFragment, changes_nextLine, List.nil_append]

theorem changes_ofFragment : ∀ (f : List Instruction) (isFirst : Bool),
    changes (ofFragment order f isFirst) = Fragment.changes f
  | [], _ => rfl
  | i :: rest, isFirst => by
    rw [ofFragment, Fragment.changes, changes_append, changes_ofInstruction, changes_ofFragment]

theorem changes_ofPiece : ∀ p : Piece, changes (ofPiece order p) = p.changes
  | .fragment body => changes_ofFragment body true
  | .comparison c => changes_ofComparison c
  | .clause c => changes_ofClause c
  | .condition c => changes_ofCondition c
  | .parameter _ => rfl
  | .field f => changes_ofField f f.parentHint
  | .method m => changes_ofMethod m m.parentHint
  | .type t => changes_ofType t

theorem changes_ofComparison : ∀ c : Comparison, changes (ofComparison order c) = c.changes
  | { left, comparator, right } => by
    rw [ofComparison, Comparison.changes, changes_append, changes_cons, changes_ofFragment, changes_ofFragment]
    rfl

theorem changes_ofClause : ∀ c : Clause, changes (ofClause order c) = c.changes
  | { comparison, connective := none } => changes_ofComparison comparison
  | { comparison, connective := some _ } => changes_ofComparison comparison

theorem changes_ofElement : ∀ e : ConditionElement, changes (ofElement order e) = e.changes
  | .clause c => changes_ofClause c
  | .group c => changes_ofGroup c

theorem changes_ofGroup : ∀ c : Condition, changes (ofGroup order c) = c.changes
  | { elements, connective := none } => by
    simp [ofGroup, Condition.changes, changes_ofElements elements, Stroke.changes]
  | { elements, connective := some c } => by
    simp [ofGroup, Condition.changes, changes_ofElements elements, Stroke.changes]

theorem changes_ofCondition : ∀ c : Condition, changes (ofCondition order c) = c.changes
  | { elements, connective := none } => changes_ofElements elements
  | { elements, connective := some _ } => changes_ofElements elements

theorem changes_ofElements : ∀ l : List ConditionElement,
    changes (ofElements order l) = Condition.elementChanges l
  | [] => rfl
  | e :: rest => by
    rw [ofElements, Condition.elementChanges, changes_append, changes_ofElement, changes_ofElements]

theorem changes_ofValue : ∀ initializer : Option (List Instruction),
    changes (ofValue order initializer) = Field.valueChanges initializer
  | none => rfl
  | some body => changes_ofFragment body false

theorem changes_ofGetter : ∀ initializer : Option (List Instruction),
    changes (ofGetter order initializer) = Field.getterChanges initializer
  | none => rfl
  | some body => by simp [ofGetter, Field.getterChanges, changes_ofFragment body true]

theorem changes_ofField : ∀ (f : Field) (parent : Option Kind),
    changes (ofField order f parent) = f.changesIn parent
  | f@{ heading, initializer, .. }, parent => by
    rw [ofField, Field.changesIn, changes_append, changes_fieldDocumentation, List.nil_append]
    split
    · exact changes_ofValue initializer
    · rw [changes_append, changes_modifiers, List.nil_append]
      split
      · rfl
      · split
        · exact changes_ofGetter initializer
        · exact changes_ofValue initializer

theorem changes_ofMethod : ∀ (m : Method) (parent : Option Kind),
    changes (ofMethod order m parent) = m.changesIn parent
  | m@{ heading, parameters, body, .. }, parent => by
    rw [ofMethod, Method.changesIn]
    split
    · simp [Stroke.changes]
    · simp [Stroke.changes, changes_ofFragment body true]

theorem changes_ofFields : ∀ (l : List Field) (kind : Kind) (isFirst : Bool),
    changes (ofFields order l kind isFirst) = TypeDeclaration.fieldChanges l kind
  | [], _, _ => rfl
  | f :: rest, kind, isFirst => by
    rw [ofFields, TypeDeclaration.fieldChanges, changes_append, changes_append, changes_ofField, changes_ofFields]
    cases isFirst <;> rfl

theorem changes_ofMethods : ∀ (l : List Method) (kind : Kind),
    changes (ofMethods order l kind) = TypeDeclaration.methodChanges l kind
  | [], _ => rfl
  | m :: rest, kind => by
    simp [ofMethods, TypeDeclaration.methodChanges, changes_ofMethod m, changes_ofMethods rest, Stroke.changes]

theorem changes_ofType : ∀ t : TypeDeclaration, changes (ofType order t) = t.changes
  | { heading, methods, fields, superType, protocols } => by
    rw [ofType, TypeDeclaration.changes]
    split
    · simp [Stroke.changes, changes_ofFields fields, changes_ofMethods methods]
    · simp [Stroke.changes, changes_ofFields fields, changes_ofMethods methods]

end

end Script

end SwiftSource
