import AppBundle.Document.Decode

/-! # Reading alternatives

A value of a closed set of variants is named by a text, or by an object whose single member has the
variant as its name and its content as value. A variant without content has null there in JSON and
an empty table or array in TOML.
-/

namespace AppBundle.Document

/-- The variant of the given name. -/
def named {α : Type} (known : List String) (variant? : String → Option α) (name : String) :
    Except Fault α :=
  match variant? name with
  | some value => .ok value
  | none => fail (.unknownVariant name known)

/-- The kind of a plain value, as it is called where a table was wanted. -/
def plainKind (format : Format) : Json → String
  | .string _ => "string"
  | .bool _ => "boolean"
  | .number number => if (format.integer? number).isSome then "integer" else "float"
  | .null => "null"
  | .array _ => "array"
  | .object _ => "table"

/-- Judge the content that a settings table gives to a variant without content. -/
def emptyTable : Decoder Unit
  | _, .object [] => .ok ()
  | _, .object _ => fail .fullTable
  | _, .array [] => .ok ()
  | _, .array _ => fail .fullArray
  | format, value => fail (.plainContent (plainKind format value))

/-- Judge the content that a JSON object gives to a variant without content. -/
def noContent : Decoder Unit
  | _, .null => .ok ()
  | _, value => mismatch value "unit"

/-- The single member of an object in JSON, or the fault of having none or several. -/
def soleMember (members : List (String × Json)) : Except Fault (String × Json) :=
  match ascending members with
  | [member] => .ok member
  | _ => fail (.wrongValue .map "map with a single key")

/-- A value of a set of variants without content. -/
def enumeration {α : Type} (known : List String) (variant? : String → Option α) : Decoder α
  | _, .string name => named known variant? name
  | .json, .object members => do
    let (name, content) ← soleMember members
    let value ← named known variant? name
    noContent .json content
    return value
  | .json, value => mismatch value "string or map"
  | .toml, .object members =>
    match ascending members with
    | [] => fail .noVariantKey
    | [(name, content)] => do
      let value ← named known variant? name
      emptyTable .toml content
      return value
    | _ => fail .manyVariantKeys
  | .toml, _ => fail (.wrongType .unitVariant "string only")

end AppBundle.Document
