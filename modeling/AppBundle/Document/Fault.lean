import AppBundle.Document.Format
import AppBundle.ModelError
import AppBundle.Text.Quoted

/-! # What can be wrong with a document

A `Fault` is a cause and the place where it arose, given by the keys that lead there. The wording of
a cause is the same for every document except for numbers, which each format shows in its own way.
-/

namespace AppBundle.Document

/-- What a document holds where something else was wanted. -/
inductive Found where
  | null
  | bool (value : Bool)
  | number (value : Json.Number)
  | string (text : String)
  | sequence
  | map
  /-- A variant named without content. -/
  | unitVariant
deriving DecidableEq, Repr

namespace Found

/-- What a value is, for a message about it. -/
def ofJson : Json → Found
  | .null => null
  | .bool value => bool value
  | .number value => number value
  | .string text => string text
  | .array _ => sequence
  | .object _ => map

/-- The words for what was found. -/
def describe (format : Format) : Found → String
  | null => "null"
  | bool value => "boolean `" ++ (if value then "true" else "false") ++ "`"
  | number value =>
    match format.integer? value with
    | some value => "integer `" ++ toString value ++ "`"
    | none => "floating point `" ++ format.floatText value ++ "`"
  | string text => "string " ++ Text.quote text
  | sequence => "sequence"
  | map => "map"
  | unitVariant => "unit variant"

end Found

/-- Why a document can not be read as the wanted type. -/
inductive Cause where
  /-- The value is of another kind than wanted. -/
  | wrongType (found : Found) (wanted : String)
  /-- The value is of the wanted kind but not allowed. -/
  | wrongValue (found : Found) (wanted : String)
  /-- A record lacks a required field. -/
  | missingField (name : String)
  /-- A record has a field that is not declared. -/
  | unknownField (name : String) (known : List String)
  /-- No variant has this name. -/
  | unknownVariant (name : String) (known : List String)
  /-- A record given as an array has too few or too many elements. -/
  | wrongLength (count : Nat) (wanted : String)
  /-- The text is not one that the model takes. -/
  | refused (error : ModelError)
  /-- A table that names a variant has no key. -/
  | noVariantKey
  /-- A table that names a variant has several keys. -/
  | manyVariantKeys
  /-- A variant without content was given a table that is not empty. -/
  | fullTable
  /-- A variant without content was given an array that is not empty. -/
  | fullArray
  /-- A variant without content was given a plain value. -/
  | plainContent (kind : String)
deriving DecidableEq, Repr

namespace Cause

/-- A list of names as alternatives. -/
def alternatives : List String → String
  | [name] => "`" ++ name ++ "`"
  | [first, second] => "`" ++ first ++ "` or `" ++ second ++ "`"
  | names => "one of " ++ String.intercalate ", " (names.map fun name => "`" ++ name ++ "`")

/-- The words for a cause. -/
def message (format : Format) : Cause → String
  | wrongType found wanted =>
    "invalid type: " ++ found.describe format ++ ", expected " ++ wanted
  | wrongValue found wanted =>
    "invalid value: " ++ found.describe format ++ ", expected " ++ wanted
  | missingField name => "missing field `" ++ name ++ "`"
  | unknownField name known =>
    "unknown field `" ++ name ++ "`, expected " ++ alternatives known
  | unknownVariant name known =>
    "unknown variant `" ++ name ++ "`, expected " ++ alternatives known
  | wrongLength count wanted => "invalid length " ++ toString count ++ ", expected " ++ wanted
  | refused error => error.message
  | noVariantKey => "wanted exactly 1 element, found 0 elements"
  | manyVariantKeys => "wanted exactly 1 element, more than 1 element"
  | fullTable => "expected empty table"
  | fullArray => "expected empty array"
  | plainContent kind => "expected table, found " ++ kind

end Cause

/-- A cause and the keys that lead to it from the top of the document. -/
structure Fault where
  cause : Cause
  path : List String
deriving DecidableEq, Repr

namespace Fault

/-- A fault of the value at hand. -/
def here (cause : Cause) : Fault := ⟨cause, []⟩

/-- A fault seen from the table that holds the value under a key. -/
def under (key : String) (fault : Fault) : Fault := { fault with path := key :: fault.path }

/-- The text shown for a fault. For settings it ends with the place, if that is not the top. -/
def message (format : Format) (fault : Fault) : String :=
  match format with
  | .json => fault.cause.message .json
  | .toml =>
    fault.cause.message .toml ++ "\n" ++
      if fault.path.isEmpty then ""
      else "in `" ++ String.intercalate "." fault.path ++ "`\n"

end Fault

end AppBundle.Document
