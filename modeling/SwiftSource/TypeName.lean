import SwiftSource.SortedSet

/-!
References to types, such as `[Int]` or `Date?`, with the modules they need.
-/
namespace SwiftSource

abbrev Imports := SortedSet String

structure TypeName where
  keyword : String
  isOptional : Bool := false
  imports : Imports := ∅
  deriving DecidableEq

namespace TypeName

def text (t : TypeName) : String := if t.isOptional then t.keyword ++ "?" else t.keyword

def named (keyword : String) : TypeName := { keyword }

def importing (t : TypeName) (name : String) : TypeName := { t with imports := t.imports.insert name }

def optional (t : TypeName) : TypeName := { t with isOptional := true }

def array (element : TypeName) : TypeName :=
  { keyword := "[" ++ element.text ++ "]", imports := element.imports }

def dictionary (key value : TypeName) : TypeName :=
  { keyword := "[" ++ key.text ++ ": " ++ value.text ++ "]", imports := key.imports ∪ value.imports }

def string : TypeName := named "String"
def integer : TypeName := named "Int"
def long : TypeName := named "Int64"
def boolean : TypeName := named "Bool"
def double : TypeName := named "Double"
def float : TypeName := named "Float"
def void : TypeName := named "Void"
def any : TypeName := named "Any"
def date : TypeName := (named "Date").importing "Foundation"
def url : TypeName := (named "URL").importing "Foundation"
def data : TypeName := (named "Data").importing "Foundation"

@[simp]
theorem text_named (keyword : String) : (named keyword).text = keyword := rfl

@[simp]
theorem text_optional (t : TypeName) : t.optional.text = t.keyword ++ "?" := rfl

@[simp]
theorem text_array (element : TypeName) : (array element).text = "[" ++ element.text ++ "]" := rfl

@[simp]
theorem text_dictionary (key value : TypeName) :
    (dictionary key value).text = "[" ++ key.text ++ ": " ++ value.text ++ "]" := rfl

end TypeName

end SwiftSource
