import SwiftSource.ControlFlow
import SwiftSource.Proofs.Script.Changes

/-! Scripts and fragments that come back to the level at which they start. There they add one text, and what stands
in braces is laid out one level deeper. -/

namespace SwiftSource

open Steps

namespace Writer

def inside (w : Writer) : Writer := { w with level := w.level + 1 }

variable {w : Writer}

lemma Spells.inside {s : Script} {text : String} (h : w.inside.Spells s text) (hlevel : w.level < deepest) :
    w.Spells (.deeper :: (s ++ [.higher])) text := by
  intro v hc ho hl
  have hdeeper : v.indent = v.inside := by
    rw [← hl] at hlevel
    simp only [indent, indentBy, Writer.inside, Nat.min_eq_left hlevel]
  have hs := h v.inside hc ho (congrArg (· + 1) hl)
  change v.run (.deeper :: (s ++ [.higher])) = v.push text
  rw [run_cons, ← run_run, play, hdeeper]
  exact congrArg unindent hs

end Writer

namespace Script

/-- The script comes back to its level, and it adds the text unless it reaches the level at which writers stop. -/
structure LaysOut (w : Writer) (s : Script) (text : String) : Prop where
  balanced : Balanced s.changes
  spells : StaysWithin Writer.deepest w.level s.changes → w.Spells s text

variable {w : Writer}

lemma LaysOut.append {s t : Script} {a b : String} (hs : LaysOut w s a) (ht : LaysOut w t b) :
    LaysOut w (s ++ t) (a ++ b) where
  balanced := by
    rw [changes_append]
    exact hs.balanced.append ht.balanced
  spells hr := by
    rw [changes_append] at hr
    have hright : StaysWithin Writer.deepest w.level t.changes :=
      hr.right (by rw [hs.balanced.sum_eq, Int.add_zero])
    exact (hs.spells hr.left).append (ht.spells hright)

lemma laysOut_nil : LaysOut w [] "" := ⟨balanced_nil, fun _ => Writer.spells_nil⟩

lemma laysOut_text (text : String) : LaysOut w [.text text] text := ⟨balanced_nil, fun _ => Writer.spells_text text⟩

lemma laysOut_nextLine : LaysOut w nextLine ("\n" ++ w.indentation) :=
  ⟨balanced_nil, fun _ => (Writer.spells_text "\n").append (Writer.spells_indentation 0)⟩

lemma LaysOut.inside {s : Script} {text : String} (h : LaysOut w.inside s text) :
    LaysOut w (.deeper :: (s ++ [.higher])) text := by
  have hchanges : changes (.deeper :: (s ++ [.higher])) = 1 :: (s.changes ++ [-1]) := by
    rw [changes_cons, changes_append]
    rfl
  refine ⟨hchanges ▸ h.balanced.wrap, fun hr => ?_⟩
  rw [hchanges] at hr
  exact (h.spells hr.of_wrap).inside hr.of_wrap.start_le

lemma laysOut_of_run {op : Writer → Writer} (script : List Modifier → Script)
    (hrun : ∀ v : Writer, op v = v.run (script v.modifierOrder)) (h : Balanced (script w.modifierOrder).changes) :
    LaysOut w (script w.modifierOrder) (w.added op) := by
  rw [Writer.added_of_run script hrun]
  exact ⟨h, Writer.spells_of_balanced h⟩

lemma laysOut_piece {p : Piece} (h : Balanced p.changes) :
    LaysOut w (ofPiece w.modifierOrder p) (w.added p.print) := by
  rw [← changes_ofPiece w.modifierOrder p] at h
  exact laysOut_of_run (fun order => ofPiece order p) p.print_eq_run h

end Script

namespace Fragment

def ownLine (f : Fragment) (w : Writer) : String := "\n" ++ w.indentation ++ w.added f.print

def closing (w : Writer) : String := "\n" ++ w.indentation ++ "\x7d"

def inBraces (f : Fragment) (w : Writer) : String := " \x7b" ++ f.ownLine w.inside ++ closing w

def LaysOut (w : Writer) (f : Fragment) (isFirst : Bool) (text : String) : Prop :=
  Script.LaysOut w (Script.ofFragment w.modifierOrder f isFirst) text

variable {w : Writer} {isFirst : Bool}

lemma LaysOut.append {f g : Fragment} {a b : String} (hf : LaysOut w f isFirst a)
    (hg : LaysOut w g (isFirst && onlyNests f) b) : LaysOut w (f ++ g) isFirst (a ++ b) := by
  rw [LaysOut, Script.ofFragment_append]
  exact Script.LaysOut.append hf hg

lemma LaysOut.print_eq {f : Fragment} {text : String} (h : LaysOut w f true text)
    (hr : StaysWithin Writer.deepest w.level (changes f)) : f.print w = w.push text := by
  rw [← Script.changes_ofFragment w.modifierOrder f true] at hr
  rw [print, printFrom_eq_run]
  exact h.spells hr w rfl rfl rfl

lemma laysOut_nil : LaysOut w [] isFirst "" := Script.laysOut_nil

lemma laysOut_first (text : String) : LaysOut w [.ofText text] true text := Script.laysOut_text text

lemma laysOut_word (text : String) : LaysOut w [.ofText text] false (" " ++ text) := Script.laysOut_text _

lemma laysOut_glued (text : String) : LaysOut w [.ofGlued text] isFirst text := by
  cases isFirst <;> exact Script.laysOut_text text

lemma laysOut_inline {p : Piece} (h : Balanced p.changes) : LaysOut w [.inline p] false (" " ++ w.added p.print) := by
  rw [LaysOut, Script.ofFragment_singleton]
  exact (Script.laysOut_text " ").append (Script.laysOut_piece h)

lemma LaysOut.nested {f : Fragment} {text : String} (h : LaysOut w f true text) :
    LaysOut w [.nested f] isFirst ("\n" ++ w.indentation ++ text) := by
  rw [LaysOut, Script.ofFragment_singleton]
  exact Script.laysOut_nextLine.append h

lemma laysOut_nested {body : Fragment} (h : Balanced (changes body)) :
    LaysOut w [.nested body] isFirst (body.ownLine w) :=
  LaysOut.nested (Script.laysOut_piece (p := .fragment body) h)

lemma laysOut_all {α : Type} {f : α → Instruction} {text : α → String} {l : List α}
    (h : ∀ a ∈ l, ∀ isFirst, LaysOut w [f a] isFirst (text a)) :
    LaysOut w (l.map f) isFirst (String.join (l.map text)) := by
  induction l generalizing isFirst with
  | nil => exact laysOut_nil
  | cons a rest ih =>
    rw [List.map_cons, List.map_cons, String.join_cons]
    exact (h a List.mem_cons_self isFirst).append (ih fun b hb => h b (List.mem_cons_of_mem a hb))

/-- Between an instruction that ends by going deeper and one that begins by going back up. -/
lemma LaysOut.enclosed {f : Fragment} {opening closing : Instruction} {before after : Script} {a b text : String}
    (h : ∀ isFirst, LaysOut w.inside f isFirst text)
    (ho : ∀ isFirst, Script.ofInstruction w.modifierOrder opening isFirst = before ++ [.deeper])
    (hc : ∀ isFirst, Script.ofInstruction w.modifierOrder closing isFirst = .higher :: after)
    (hb : Script.LaysOut w before a) (ha : Script.LaysOut w after b) :
    LaysOut w ([opening] ++ (f ++ [closing])) isFirst (a ++ text ++ b) := by
  have hbody : Script.LaysOut w.inside (Script.ofFragment w.modifierOrder f (isFirst && onlyNests [opening])) text :=
    h _
  have henclosed := (hb.append hbody.inside).append ha
  rw [LaysOut, Script.ofFragment_append, Script.ofFragment_append, Script.ofFragment_singleton,
    Script.ofFragment_singleton, ho, hc]
  simpa only [List.append_assoc, List.cons_append, List.nil_append] using henclosed

lemma laysOut_closing : Script.LaysOut w [.text "\n", .indentation 0, .text "\x7d"] (closing w) :=
  Script.laysOut_nextLine.append (Script.laysOut_text "\x7d")

lemma laysOut_braced {body : Fragment} (h : Balanced (changes body)) :
    LaysOut w (braced body) isFirst (body.inBraces w) :=
  LaysOut.enclosed (fun _ => laysOut_nested h) (fun _ => rfl) (fun _ => rfl) (Script.laysOut_text " \x7b")
    laysOut_closing

end Fragment

end SwiftSource
