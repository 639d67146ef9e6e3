/-! # Names of properties

Properties and their values are looked up by names. Two names are the same if they differ only in
case, in blanks, hyphens and low lines or in a leading `is`. Tables hold names in their normal form.
-/

namespace AppBundle.Unicode

/-- The form in which a name is looked up. Characters outside ASCII are passed over. The short name
of the property `ISO_Comment` is the only one that keeps its leading `is`. -/
def normalName (name : List Char) : String :=
  let prefixed := (name.take 2).map Char.toLower = ['i', 's']
  let letters := ((if prefixed then name.drop 2 else name).filter fun char =>
    char.toNat < 0x80 && char != ' ' && char != '_' && char != '-').map Char.toLower
  if prefixed && letters = ['c'] then "isc" else String.ofList letters

/-- Values with their names. -/
abbrev NameTable (α : Type) := List (List String × α)

/-- The value with a name. -/
def NameTable.lookUp? {α : Type} (table : NameTable α) (name : String) : Option α :=
  (table.find? fun entry => entry.1.contains name).map (·.2)

end AppBundle.Unicode
