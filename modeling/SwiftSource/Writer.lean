import SwiftSource.Conventions
import SwiftSource.Fragment
import SwiftSource.Text.Lines

/-!
A writer: the text so far, the level of indentation, and the conventions under which it writes. Every
operation only adds to the text.
-/
namespace SwiftSource

structure Writer where
  text : String := ""
  level : Nat := 0
  conventions : Conventions := {}
  today : Date := .epoch
  modifierOrder : List Modifier := Modifier.guideline

namespace Writer

instance : Inhabited Writer := ⟨{}⟩

def fresh (w : Writer) : Writer := { w with text := "", level := 0 }

def push (w : Writer) (s : String) : Writer := { w with text := w.text ++ s }

def deepest : Nat := 0xFFFFFFFFFFFFFFFF

def indentBy (w : Writer) (levels : Nat) : Writer := { w with level := min (w.level + levels) deepest }

def indent (w : Writer) : Writer := w.indentBy 1

def unindentBy (w : Writer) (levels : Nat) : Writer := { w with level := w.level - levels }

def unindent (w : Writer) : Writer := w.unindentBy 1

def indentationAt (w : Writer) (level : Nat) : String := w.conventions.indent.atLevel level

def indentation (w : Writer) : String := w.indentationAt w.level

def pushIndentation (w : Writer) : Writer := w.push w.indentation

def newLine (w : Writer) : Writer := w.push "\n"

def nextLine (w : Writer) : Writer := w.newLine.pushIndentation

def line (w : Writer) (text : String) : Writer := w.nextLine.push text

def openBrace (w : Writer) : Writer := (w.push " \x7b").indent

def closeBrace (w : Writer) : Writer := w.unindent.nextLine.push "\x7d"

def token (w : Writer) (isFirst : Bool) (t : Token) : Writer :=
  (if isFirst || t.isGlued then w else w.push " ").push t.text

def tokens (w : Writer) (isFirst : Bool) : List Token → Writer
  | [] => w
  | t :: rest => (w.token isFirst t).tokens false rest

/-! ### Modifiers and inheritance -/

/-- The rank of a modifier: its first place in the order of the writer, after all of it for a modifier
that the order leaves out. -/
def rank (w : Writer) (m : Modifier) : Nat :=
  let place := w.modifierOrder.idxOf m
  if place < w.modifierOrder.length then place else w.modifierOrder.length + m.position

def orderedModifiers (w : Writer) (s : ModifierSet) : List Modifier :=
  s.toList.mergeSort fun m n => w.rank m ≤ w.rank n

def modifiers (w : Writer) (s : ModifierSet) : Writer :=
  w.pushIndentation.push (String.join ((w.orderedModifiers s).map fun m => m.keyword ++ " "))

def inheritance (w : Writer) (superType : Option TypeName) (protocols : List TypeName) : Writer :=
  match superType.toList ++ protocols with
  | [] => w
  | types => w.push (": " ++ ", ".intercalate (types.map TypeName.text))

def imports (w : Writer) (modules : Imports) : Writer :=
  if modules.isEmpty then w
  else w.push (String.join (modules.toList.map fun name => "import " ++ name ++ "\n") ++ "\n")

end Writer

end SwiftSource
