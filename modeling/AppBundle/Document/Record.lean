import AppBundle.Document.Decode

/-! # Reading records

A `Record` lists the fields of a structure in the order of their declaration and says how each is
read and what stands for an absent one. From this one description follow the object form, where
members are judged in ascending order of their names and missing fields are looked for afterwards,
and the array form, where the elements are the fields in order of declaration.
-/

namespace AppBundle.Document

/-- Where the fields of a record are found, by position and by name, and the fault of a required one
that is absent. -/
structure Fields where
  find? : Nat → String → Option Json
  absent : Nat → String → Fault

/-- The fields of a structure and how they make up its values. -/
structure Record (α : Type) where
  /-- The names of the fields, in the order of their declaration. -/
  names : List String
  /-- The judgement of the value of a declared field. -/
  judge? : String → Option (Decoder Unit)
  /-- The value made of the fields, the first of which stands at the given position. -/
  read : Format → Nat → Fields → Except Fault α

namespace Record

variable {α β : Type}

/-- The record without fields. -/
def done (value : α) : Record α := ⟨[], fun _ => none, fun _ _ _ => .ok value⟩

/-- The fields of one record followed by those of another. -/
def followedBy (build : Record (α → β)) (argument : Record α) : Record β where
  names := build.names ++ argument.names
  judge? name := (build.judge? name).or (argument.judge? name)
  read format position fields := do
    let make ← build.read format position fields
    let value ← argument.read format (position + build.names.length) fields
    return make value

instance : Applicative Record where
  pure := done
  seq build argument := build.followedBy (argument ())

/-- One field, with what becomes of its absence. -/
def single (name : String) (decoder : Decoder α) (absent : Fields → Nat → Except Fault α) :
    Record α where
  names := [name]
  judge? other :=
    if other = name then some fun format value => (decoder format value).map fun _ => () else none
  read format position fields :=
    match fields.find? position name with
    | some value => decoder format value
    | none => absent fields position

/-- A field that has to be there. -/
def required (name : String) (decoder : Decoder α) : Record α :=
  single name decoder fun fields position => .error (fields.absent position name)

/-- A field that may be absent, and then has the given value. -/
def defaulted (name : String) (decoder : Decoder α) (default : α) : Record α :=
  single name decoder fun _ _ => .ok default

/-- A value that may be null. -/
def nullable (decoder : Decoder α) : Decoder (Option α)
  | _, .null => .ok none
  | format, value => some <$> decoder format value

/-- A field that may be absent or null. -/
def optional (name : String) (decoder : Decoder α) : Record (Option α) :=
  defaulted name (nullable decoder) none

/-- The fields of an object. -/
def ofMembers (members : List (String × Json)) : Fields where
  find? _ name := (SortedMap.ofList members).get? name
  absent _ name := .here (.missingField name)

/-- The fields of an array; `title` names the record in faults. -/
def ofItems (title : String) (count : Nat) (items : List Json) : Fields where
  find? position _ := items[position]?
  absent position _ :=
    .here (.wrongLength position
      ("struct " ++ title ++ " with " ++ toString count ++
        if count = 1 then " element" else " elements"))

/-- Judge one member of an object: its name has to be declared and its value to be readable. -/
def judgeMember (record : Record α) (format : Format) (member : String × Json) :
    Except Fault Unit :=
  match record.judge? member.1 with
  | none => fail (.unknownField member.1 record.names)
  | some judge => inMember member.1 (judge format member.2)

/-- Read a record of the given title from its object or array form. -/
def decoder (title : String) (record : Record α) : Decoder α
  | format, .object members => do
    (ascending members).forM (record.judgeMember format)
    record.read format 0 (ofMembers members)
  | format, .array items => do
    let value ← record.read format 0 (ofItems title record.names.length items)
    if record.names.length < items.length then
      fail (.wrongLength items.length "fewer elements in array")
    else return value
  | _, value => mismatch value ("struct " ++ title)

end Record

end AppBundle.Document
