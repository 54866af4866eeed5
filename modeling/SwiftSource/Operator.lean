/-!
The operators of conditions: comparators between two operands, and connectives between two conditions.
-/
namespace SwiftSource

inductive Comparator where
  | equal
  | notEqual
  | less
  | greater
  | lessOrEqual
  | greaterOrEqual
  | binding
  deriving DecidableEq, Repr

namespace Comparator

def all : List Comparator := [equal, notEqual, less, greater, lessOrEqual, greaterOrEqual, binding]

def symbol : Comparator → String
  | equal => "=="
  | notEqual => "!="
  | less => "<"
  | greater => ">"
  | lessOrEqual => "<="
  | greaterOrEqual => ">="
  | binding => "="

end Comparator

inductive Connective where
  | and
  | or
  | comma
  deriving DecidableEq, Repr

namespace Connective

def all : List Connective := [and, or, comma]

def symbol : Connective → String
  | and => "&&"
  | or => "||"
  | comma => ","

def joiner : Connective → String
  | and => " && "
  | or => " || "
  | comma => ", "

end Connective

end SwiftSource
