import SwiftSource.Proofs.Script.LaysOut

/-! The layout of control flow around conditions and bodies that keep their level. A header stands in the current
line, each body one level deeper on lines of its own, and the braces close at the level of the header. -/

namespace SwiftSource

open Steps

inductive Flow where
  | guardElse (condition : Option Condition) (body : Fragment)
  | ifThen (condition : Option Condition) (body : Fragment)
  | elseIf (condition : Option Condition) (body : Fragment)
  | otherwise (body : Fragment)
  | whileDo (condition : Option Condition) (body : Fragment)
  | repeatWhile (condition : Condition) (body : Fragment)
  | forIn (iterator iterable : String) (body : Fragment)
  | closure (parameters : String) (throws : Bool) (returnType : Option String) (body : Fragment)
  | doCatch (body handler : Fragment)

namespace Flow

def fragment : Flow → Fragment
  | guardElse c body => .guardElse c body
  | ifThen c body => .ifThen c body
  | elseIf c body => .elseIf c body
  | otherwise body => .otherwise body
  | whileDo c body => .whileDo c body
  | repeatWhile c body => .repeatWhile c body
  | forIn iterator iterable body => .forIn iterator iterable body
  | closure parameters throws returnType body => .closure parameters throws returnType body
  | doCatch body handler => .doCatch body handler

def conditions : Flow → List Condition
  | guardElse c _ | ifThen c _ | elseIf c _ | whileDo c _ => c.toList
  | repeatWhile c _ => [c]
  | otherwise _ | forIn _ _ _ | closure _ _ _ _ | doCatch _ _ => []

def bodies : Flow → List Fragment
  | guardElse _ body | ifThen _ body | elseIf _ body | otherwise body | whileDo _ body | repeatWhile _ body
  | forIn _ _ body | closure _ _ _ body => [body]
  | doCatch body handler => [body, handler]

def conditionText (w : Writer) (c : Option Condition) : String := c.elim "" fun c => " " ++ w.added c.print

def layout (w : Writer) : Flow → String
  | guardElse c body => "guard" ++ conditionText w c ++ " else" ++ body.inBraces w
  | ifThen c body => "if" ++ conditionText w c ++ body.inBraces w
  | elseIf c body => "else if" ++ conditionText w c ++ body.inBraces w
  | otherwise body => "else" ++ body.inBraces w
  | whileDo c body => "while" ++ conditionText w c ++ body.inBraces w
  | repeatWhile c body => "repeat" ++ body.inBraces w ++ " while " ++ w.added c.print
  | forIn iterator iterable body => "for " ++ iterator ++ " in " ++ iterable ++ body.inBraces w
  | closure parameters throws returnType body =>
    "\x7b (" ++ parameters ++ ")" ++ (if throws then " throws" else "") ++ " -> " ++ returnType.getD "Void" ++
      " in" ++ body.ownLine w.inside ++ Fragment.closing w
  | doCatch body handler => "do" ++ body.inBraces w ++ " catch" ++ handler.inBraces w

end Flow

namespace Fragment

variable {w : Writer}

lemma laysOut_optionalCondition {c : Option Condition} (h : ∀ x ∈ c.toList, Balanced x.changes) :
    LaysOut w (optionalCondition c) false (Flow.conditionText w c) := by
  cases c with
  | none => exact laysOut_nil
  | some x => exact laysOut_inline (p := .condition x) (h x List.mem_cons_self)

lemma laysOut_conditional (keyword : ControlFlow) {c : Option Condition} {body : Fragment}
    (hc : ∀ x ∈ c.toList, Balanced x.changes) (hb : Balanced (changes body)) :
    LaysOut w (keyword.instruction :: optionalCondition c ++ braced body) true
      (keyword.keyword ++ Flow.conditionText w c ++ body.inBraces w) :=
  ((laysOut_first keyword.keyword).append (laysOut_optionalCondition hc)).append (laysOut_braced hb)

lemma laysOut_guardElse {c : Option Condition} {body : Fragment} (hc : ∀ x ∈ c.toList, Balanced x.changes)
    (hb : Balanced (changes body)) : LaysOut w (guardElse c body) true ((Flow.guardElse c body).layout w) := by
  have helse : LaysOut w [ControlFlow.otherwise.instruction] false " else" := laysOut_word "else"
  have h := ((laysOut_first "guard").append (laysOut_optionalCondition hc)).append (helse.append (laysOut_braced hb))
  rwa [← String.append_assoc] at h

lemma laysOut_repeatWhile {c : Condition} {body : Fragment} (hc : Balanced c.changes) (hb : Balanced (changes body)) :
    LaysOut w (repeatWhile c body) true ((Flow.repeatWhile c body).layout w) := by
  have hwhile : LaysOut w [ControlFlow.whileLoop.instruction] false " while" := laysOut_word "while"
  have h := ((laysOut_first "repeat").append (laysOut_braced hb)).append
    (hwhile.append (laysOut_inline (p := .condition c) hc))
  rw [← String.append_assoc, ← String.append_assoc] at h
  rw [Flow.layout, show " while " = " while" ++ " " from rfl, ← String.append_assoc]
  exact h

lemma laysOut_forIn {iterator iterable : String} {body : Fragment} (hb : Balanced (changes body)) :
    LaysOut w (forIn iterator iterable body) true ((Flow.forIn iterator iterable body).layout w) := by
  have hin : LaysOut w [ControlFlow.membership.instruction] false " in" := laysOut_word "in"
  have h := ((laysOut_first "for").append ((laysOut_word iterator).append (hin.append (laysOut_word iterable)))).append
    (laysOut_braced hb)
  rw [Flow.layout, show "for " = "for" ++ " " from rfl, show " in " = " in" ++ " " from rfl]
  simp only [String.append_assoc] at h ⊢
  exact h

lemma laysOut_closure {parameters : String} {throws : Bool} {returnType : Option String} {body : Fragment}
    (hb : Balanced (changes body)) :
    LaysOut w (closure parameters throws returnType body) true
      ((Flow.closure parameters throws returnType body).layout w) := by
  have hthrows : LaysOut w (if throws then [.ofText "throws"] else []) false (if throws then " throws" else "") := by
    split
    · exact laysOut_word "throws"
    · exact laysOut_nil
  have harrow : LaysOut w [.ofText "->"] false " ->" := laysOut_word "->"
  have hin : LaysOut w [ControlFlow.membership.instruction] false " in" := laysOut_word "in"
  -- The first word opens the brace that the last instruction closes.
  have hbody : LaysOut w [.indent, .nested body, .closeBrace] false ("" ++ body.ownLine w.inside ++ closing w) :=
    LaysOut.enclosed (fun _ => laysOut_nested hb) (fun _ => rfl) (fun _ => rfl) Script.laysOut_nil laysOut_closing
  have hopening := ((laysOut_first "\x7b").append (laysOut_word ("(" ++ parameters ++ ")"))).append hthrows
  have h := hopening.append (harrow.append ((laysOut_word (returnType.getD "Void")).append (hin.append hbody)))
  rw [Flow.layout, show "\x7b (" = "\x7b" ++ (" " ++ "(") from rfl, show " -> " = " ->" ++ " " from rfl]
  simp only [String.append_assoc, String.empty_append] at h ⊢
  exact h

lemma laysOut_doCatch {body handler : Fragment} (hb : Balanced (changes body)) (hh : Balanced (changes handler)) :
    LaysOut w (doCatch body handler) true ((Flow.doCatch body handler).layout w) := by
  have hcatch : LaysOut w [.ofText "catch"] false " catch" := laysOut_word "catch"
  have h := ((laysOut_first "do").append (laysOut_braced hb)).append (hcatch.append (laysOut_braced hh))
  rwa [← String.append_assoc] at h

end Fragment

namespace Flow

open Fragment

lemma laysOut (x : Flow) (w : Writer) (hc : ∀ c ∈ x.conditions, Balanced c.changes)
    (hb : ∀ body ∈ x.bodies, Balanced (changes body)) : LaysOut w x.fragment true (x.layout w) := by
  cases x with
  | guardElse c body => exact laysOut_guardElse hc (hb body List.mem_cons_self)
  | ifThen c body => exact laysOut_conditional .conditional hc (hb body List.mem_cons_self)
  | elseIf c body => exact laysOut_conditional .otherwiseIf hc (hb body List.mem_cons_self)
  | otherwise body => exact (laysOut_first "else").append (laysOut_braced (hb body List.mem_cons_self))
  | whileDo c body => exact laysOut_conditional .whileLoop hc (hb body List.mem_cons_self)
  | repeatWhile c body => exact laysOut_repeatWhile (hc c List.mem_cons_self) (hb body List.mem_cons_self)
  | forIn iterator iterable body => exact laysOut_forIn (hb body List.mem_cons_self)
  | closure parameters throws returnType body => exact laysOut_closure (hb body List.mem_cons_self)
  | doCatch body handler =>
    exact laysOut_doCatch (hb body List.mem_cons_self) (hb handler (List.mem_cons_of_mem _ List.mem_cons_self))

/-- No writer goes below `Writer.deepest`, so the whole must fit above it. -/
theorem print_flow (x : Flow) (w : Writer) (hc : ∀ c ∈ x.conditions, Balanced c.changes)
    (hb : ∀ body ∈ x.bodies, Balanced (changes body)) (hr : StaysWithin Writer.deepest w.level (changes x.fragment)) :
    x.fragment.print w = w.push (x.layout w) :=
  (x.laysOut w hc hb).print_eq hr

theorem print_flow_retry :
    let attempt : Flow :=
      .closure "item: Item" true none (Fragment.forIn "part" "item.parts" [.ofText "try", .ofText "send(part)"])
    let failed : Condition :=
      .ofComparison { left := [.ofText "attempts"], comparator := .less, right := [.ofText "3"] }
    let w : Writer := { level := 2 }
    (repeatWhile failed attempt.fragment).fragment.print w =
      w.push ("repeat" ++ attempt.fragment.inBraces w ++ " while " ++ w.added failed.print) := by
  intro attempt failed w
  have hbody : Balanced (changes attempt.fragment) := by decide
  have hcondition : Balanced failed.changes := by decide
  exact (repeatWhile failed attempt.fragment).print_flow w (List.forall_mem_singleton.mpr hcondition)
    (List.forall_mem_singleton.mpr hbody) (by decide)

end Flow

namespace Fragment

variable {w : Writer} {isFirst : Bool}

def caseText (w : Writer) (label : String) (body : Fragment) : String :=
  "\n" ++ w.indentation ++ (label ++ ":" ++ body.ownLine w.inside)

lemma laysOut_switchCase {label body : Fragment} {text : String} (hl : LaysOut w label true text)
    (hb : Balanced (changes body)) : LaysOut w [.nested (switchCase label body)] isFirst (caseText w text body) := by
  have hbody : ∀ isFirst, LaysOut w [.indent, .nested body, .unindent] isFirst ("" ++ body.ownLine w.inside ++ "") :=
    fun _ => LaysOut.enclosed (fun _ => laysOut_nested hb) (fun _ => rfl) (fun _ => rfl) Script.laysOut_nil
      Script.laysOut_nil
  have h := hl.append ((laysOut_glued ":").append (hbody _))
  rw [String.empty_append, String.append_empty, ← String.append_assoc] at h
  exact h.nested

/-- The label of a case stands where the `switch` does, as its brace is opened and left again at once. -/
lemma laysOut_switchOn {value : String} {cases : List (String × Fragment)} {default : Option Fragment}
    (hc : ∀ c ∈ cases, Balanced (changes c.2)) (hd : ∀ body ∈ default, Balanced (changes body)) :
    LaysOut w (switchOn value cases default) true ("switch " ++ value ++ " \x7b" ++
      String.join (cases.map fun c => caseText w ("case " ++ c.1) c.2) ++
      String.join (default.toList.map (caseText w "default")) ++ closing w) := by
  have hopen : LaysOut w [.openBrace, .unindent] false (" \x7b" ++ "" ++ "") :=
    LaysOut.enclosed (fun _ => laysOut_nil) (fun _ => rfl) (fun _ => rfl) (Script.laysOut_text " \x7b") Script.laysOut_nil
  have hclose : ∀ isFirst, LaysOut w [.indent, .closeBrace] isFirst ("" ++ "" ++ closing w) := fun _ =>
    LaysOut.enclosed (fun _ => laysOut_nil) (fun _ => rfl) (fun _ => rfl) Script.laysOut_nil laysOut_closing
  have hcase : ∀ c ∈ cases, ∀ isFirst, LaysOut w [.nested (switchCase [.ofText "case", .ofText c.1] c.2)] isFirst
      (caseText w ("case " ++ c.1) c.2) := by
    intro c h _
    apply laysOut_switchCase _ (hc c h)
    rw [show "case " = "case" ++ " " from rfl, String.append_assoc]
    exact (laysOut_first "case").append (laysOut_word c.1)
  have hdefault : ∀ body ∈ default.toList, ∀ isFirst, LaysOut w [.nested (switchCase [.ofText "default"] body)] isFirst
      (caseText w "default" body) :=
    fun body h _ => laysOut_switchCase (laysOut_first "default") (hd body (Option.mem_toList.mp h))
  have hheader := (laysOut_first "switch").append ((laysOut_word value).append hopen)
  have h := ((hheader.append (laysOut_all hcase)).append (laysOut_all hdefault)).append (hclose _)
  rw [show "switch " = "switch" ++ " " from rfl]
  simp only [String.append_assoc, String.empty_append] at h ⊢
  exact h

theorem print_switchOn (value : String) (cases : List (String × Fragment)) (default : Option Fragment) (w : Writer)
    (hc : ∀ c ∈ cases, Balanced (changes c.2)) (hd : ∀ body ∈ default, Balanced (changes body))
    (hr : StaysWithin Writer.deepest w.level (changes (switchOn value cases default))) :
    (switchOn value cases default).print w = w.push ("switch " ++ value ++ " \x7b" ++
      String.join (cases.map fun c => caseText w ("case " ++ c.1) c.2) ++ default.elim "" (caseText w "default") ++
      "\n" ++ w.indentation ++ "\x7d") := by
  have hdefault : String.join (default.toList.map (caseText w "default")) = default.elim "" (caseText w "default") := by
    cases default <;> simp
  have h := (laysOut_switchOn hc hd).print_eq hr
  rw [hdefault, closing, ← String.append_assoc, ← String.append_assoc] at h
  exact h

theorem print_switchOn_nested :
    let inner : Fragment := switchOn "y" [("1", [.ofText "return"])] none
    let w : Writer := { level := 1 }
    (switchOn "x" [("0", inner), ("1", [])] (some inner)).print w =
      w.push ("switch " ++ "x" ++ " \x7b" ++ (caseText w "case 0" inner ++ caseText w "case 1" []) ++
        caseText w "default" inner ++ "\n" ++ w.indentation ++ "\x7d") := by
  intro inner w
  have hinner : Balanced (changes inner) := by decide
  have hcases : ∀ c ∈ [("0", inner), ("1", [])], Balanced (changes c.2) :=
    List.forall_mem_cons.mpr ⟨hinner, List.forall_mem_singleton.mpr balanced_nil⟩
  have hdefault : ∀ body ∈ some inner, Balanced (changes body) := by
    intro body h
    obtain rfl := Option.mem_some.mp h
    exact hinner
  have h := print_switchOn "x" _ _ w hcases hdefault (by decide)
  simpa using h

example : render (switchOn "x" [("1", [.ofText "go()"])] (some [.ofText "stop()"])) =
    "switch x \x7b\ncase 1:\n    go()\ndefault:\n    stop()\n\x7d" := by decide

end Fragment

end SwiftSource
