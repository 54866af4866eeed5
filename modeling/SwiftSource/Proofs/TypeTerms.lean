import SwiftSource.TypeName
import Mathlib.Tactic.Lemma

/-! Type names as they are put together. A name carries whatever was attached to it or to a part of it. -/

namespace SwiftSource

inductive TypeTerm where
  | named (keyword : String)
  | importing (t : TypeTerm) (name : String)
  | optional (t : TypeTerm)
  | array (element : TypeTerm)
  | dictionary (key value : TypeTerm)

namespace TypeTerm

def toTypeName : TypeTerm → TypeName
  | named keyword => .named keyword
  | importing t name => t.toTypeName.importing name
  | optional t => t.toTypeName.optional
  | array element => .array element.toTypeName
  | dictionary key value => .dictionary key.toTypeName value.toTypeName

def attached : TypeTerm → List String
  | named _ => []
  | importing t name => name :: t.attached
  | optional t => t.attached
  | array element => element.attached
  | dictionary key value => key.attached ++ value.attached

lemma mem_imports_toTypeName {t : TypeTerm} {x : String} : x ∈ t.toTypeName.imports ↔ x ∈ t.attached := by
  induction t with
  | named keyword => simp [toTypeName, attached, TypeName.named]
  | importing t name ih => simp [toTypeName, attached, TypeName.importing, ih]
  | optional t ih => exact ih
  | array element ih => exact ih
  | dictionary key value ihKey ihValue => simp [toTypeName, attached, TypeName.dictionary, ihKey, ihValue]

example : (dictionary (importing (named "Key") "Keys") (array (importing (named "Date") "Foundation"))).attached =
    ["Keys", "Foundation"] := by decide

end TypeTerm

end SwiftSource
