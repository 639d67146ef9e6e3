import AppBundle.Collection.SortedSet
import AppBundle.Document.Fault

/-! # Reading values from documents

A decoder takes the format and a value and gives the value of the wanted type or the first fault.
The members of an object are always visited in ascending order of their names, and of repeated names
the last one counts.
-/

namespace AppBundle.Document

/-- A way to read values of a type. -/
abbrev Decoder (α : Type) := Format → Json → Except Fault α

/-- A fault of the value at hand. -/
def fail {α : Type} (cause : Cause) : Except Fault α := .error (.here cause)

/-- The fault of a value of the wrong kind. -/
def mismatch {α : Type} (value : Json) (wanted : String) : Except Fault α :=
  fail (.wrongType (.ofJson value) wanted)

/-- Read a member of an object; a fault is placed under its name. -/
def inMember {α : Type} (name : String) (read : Except Fault α) : Except Fault α :=
  read.mapError (.under name)

/-- The members of an object in ascending order of their names, the last one of each name. -/
def ascending (members : List (String × Json)) : List (String × Json) :=
  (SortedMap.ofList members).toList

/-- Any text. -/
def string : Decoder String
  | _, .string text => .ok text
  | _, value => mismatch value "a string"

/-- True or false. -/
def bool : Decoder Bool
  | _, .bool value => .ok value
  | _, value => mismatch value "a boolean"

/-- A natural number of at most 64 bits. -/
def natural64 : Decoder UInt64
  | format, .number number =>
    match format.integer? number with
    | none => mismatch (.number number) "u64"
    | some value =>
      if 0 ≤ value ∧ value ≤ 0xFFFFFFFFFFFFFFFF then .ok (UInt64.ofNat value.toNat)
      else fail (.wrongValue (.number number) "u64")
  | _, value => mismatch value "u64"

/-- A text that the model takes as a value of its own. -/
def refined {α : Type} (parse : String → Except ModelError α) : Decoder α :=
  fun format value => do
    let text ← string format value
    (parse text).mapError fun error => .here (.refused error)

/-- A list, element by element. -/
def list {α : Type} (element : Decoder α) : Decoder (List α)
  | format, .array items => items.mapM (element format)
  | _, value => mismatch value "a sequence"

/-- A set, given by its elements in any order and with repetitions. -/
def set {α : Type} [Ord α] [Std.TransOrd α] (element : Decoder α) : Decoder (SortedSet α) :=
  fun format value => SortedSet.ofList <$> list element format value

/-- A map, whose keys are read from the names of the members. -/
def map {κ ν : Type} [Ord κ] [Std.TransOrd κ] (key : String → Except ModelError κ)
    (element : Decoder ν) : Decoder (SortedMap κ ν)
  | format, .object members => do
    let entries ← (ascending members).mapM fun (name, value) => do
      let key ← (key name).mapError fun error => Fault.here (.refused error)
      return (key, ← inMember name (element format value))
    return .ofList entries
  | _, value => mismatch value "a map"

end AppBundle.Document
