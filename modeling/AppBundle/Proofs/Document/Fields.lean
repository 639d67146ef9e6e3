import AppBundle.Proofs.Document.Record

/-! # The fields of a record in a document

A field is found in an object under its name and in an array at its place among the names of the fields. If
these names are different, a record that is read from a document is made of what is found there.
-/

namespace AppBundle.Document

/-- The value of one of the fields with the given names: by its name in an object, by its place in an
array. -/
def field? (names : List String) (name : String) : Json → Option Json
  | .object members => (SortedMap.ofList members).get? name
  | .array items => items[names.idxOf name]?
  | _ => none

namespace Record

variable {α : Type} {format : Format} {record : Record α} {title name : String} {document : Json}

/-- If the fields have different names, each of them is found where the record is read. -/
theorem find?_fieldsOf (distinct : record.names.Nodup) {position : Nat}
    (placed : record.names[position]? = some name) :
    (record.fieldsOf title document).find? position name = field? record.names name document := by
  cases document with
  | array items =>
    obtain ⟨bound, rfl⟩ := List.getElem?_eq_some_iff.1 placed
    exact congrArg (items[·]?) (distinct.idxOf_getElem position bound).symm
  | _ => rfl

section Read

variable {β : Type} {decoder : Decoder β} {position : Nat}

/-- A field that has to be there is read from where it is found in the document. -/
theorem exists_field_of_required {value : β} (distinct : record.names.Nodup)
    (placed : record.names[position]? = some name)
    (read : (required name decoder).read format position (record.fieldsOf title document) = .ok value) :
    ∃ found, field? record.names name document = some found ∧ decoder format found = .ok value := by
  rw [← find?_fieldsOf distinct placed]
  exact exists_of_read_required read

/-- A field that may be absent is read from where it is found in the document, if it is. -/
theorem exists_field_of_defaulted {default value : β} (distinct : record.names.Nodup)
    (placed : record.names[position]? = some name)
    (read : (defaulted name decoder default).read format position (record.fieldsOf title document) =
      .ok value) :
    field? record.names name document = none ∧ value = default ∨
      ∃ found, field? record.names name document = some found ∧ decoder format found = .ok value := by
  rw [← find?_fieldsOf distinct placed]
  exact exists_of_read_defaulted read

end Read

end Record

end AppBundle.Document
