import AppBundle.Proofs.Document.Defect

/-! # What is wrong with a record

A record is described by the shapes of its fields. A document has a defect as such a record if it has a
field that is not declared, or if a field is missing although it is required or has a defect in its value. A
record that declares its fields in these shapes is read from exactly the documents without such a defect. To
declare them is a property of the fields one after the other.
-/

namespace AppBundle.Document

variable {α β : Type} {format : Format}

/-- A field of a record as it is declared: its name, whether it has to be there, and what is wrong with a
value of it. -/
structure FieldShape where
  name : String
  isRequired : Bool
  defect : Json → Prop

namespace FieldShape

/-- A field that has to be there. -/
def required (name : String) (defect : Json → Prop) : FieldShape := ⟨name, true, defect⟩

/-- A field that may be absent. -/
def defaulted (name : String) (defect : Json → Prop) : FieldShape := ⟨name, false, defect⟩

/-- A field that may be absent or null. -/
def optional (name : String) (defect : Json → Prop) : FieldShape :=
  defaulted name fun document => document ≠ .null ∧ defect document

/-- A field is missing although it is required, or its value has a defect. -/
def Faulty (shape : FieldShape) : Option Json → Prop
  | none => shape.isRequired = true
  | some value => shape.defect value

end FieldShape

/-- What can be wrong with a record. -/
inductive RecordDefect (shapes : List FieldShape) : Json → Prop
  | noRecord {document : Json} (noObject : ∀ members, document ≠ .object members)
    (noArray : ∀ items, document ≠ .array items) : RecordDefect shapes document
  | undeclared {members : List (String × Json)} {name : String} (present : name ∈ members.map Prod.fst)
    (undeclared : name ∉ shapes.map FieldShape.name) : RecordDefect shapes (.object members)
  | surplus {items : List Json} (more : shapes.length < items.length) : RecordDefect shapes (.array items)
  | field {document : Json} {shape : FieldShape} (declared : shape ∈ shapes)
    (faulty : shape.Faulty (field? (shapes.map FieldShape.name) shape.name document)) :
    RecordDefect shapes document

theorem recordDefect_object_iff {shapes : List FieldShape} {members : List (String × Json)} :
    RecordDefect shapes (.object members) ↔
      (∃ name ∈ members.map Prod.fst, name ∉ shapes.map FieldShape.name) ∨
        ∃ shape ∈ shapes, shape.Faulty (field? (shapes.map FieldShape.name) shape.name (.object members)) := by
  constructor
  · rintro (⟨noObject, -⟩ | ⟨present, undeclared⟩ | _ | ⟨declared, faulty⟩)
    · exact absurd rfl (noObject members)
    · exact .inl ⟨_, present, undeclared⟩
    · exact .inr ⟨_, declared, faulty⟩
  · rintro (⟨_, present, undeclared⟩ | ⟨_, declared, faulty⟩)
    · exact .undeclared present undeclared
    · exact .field declared faulty

theorem recordDefect_array_iff {shapes : List FieldShape} {items : List Json} :
    RecordDefect shapes (.array items) ↔
      shapes.length < items.length ∨
        ∃ shape ∈ shapes, shape.Faulty (field? (shapes.map FieldShape.name) shape.name (.array items)) := by
  constructor
  · rintro (⟨-, noArray⟩ | _ | more | ⟨declared, faulty⟩)
    · exact absurd rfl (noArray items)
    · exact .inl more
    · exact .inr ⟨_, declared, faulty⟩
  · rintro (more | ⟨_, declared, faulty⟩)
    · exact .surplus more
    · exact .field declared faulty

/-- What holds of every element at its index holds of those of a list and of one behind it. -/
theorem forall_getElem?_concat {property : Nat → α → Prop} {values : List α} {last : α} :
    (∀ index value, (values ++ [last])[index]? = some value → property index value) ↔
      (∀ index value, values[index]? = some value → property index value) ∧
        property values.length last := by
  grind

/-- A record has the fields of these shapes, in this order: each of them is judged by its shape, and values
are made of them if none is faulty. -/
structure Declares (format : Format) (record : Record α) (shapes : List FieldShape) : Prop where
  names : record.names = shapes.map FieldShape.name
  declared : ∀ name, record.judge? name ≠ none → name ∈ record.names
  judged : record.names.Nodup → ∀ shape ∈ shapes, ∃ judge, record.judge? shape.name = some judge ∧
    ∀ document, judge format document = .ok () ↔ ¬ shape.defect document
  read : ∀ position (fields : Fields), (∃ value, record.read format position fields = .ok value) ↔
    ∀ index (shape : FieldShape), shapes[index]? = some shape →
      ¬ shape.Faulty (fields.find? (position + index) shape.name)

theorem declares_pure (value : α) : Declares format (pure value) [] where
  names := rfl
  declared _ judged := absurd rfl judged
  judged _ _ member := nomatch member
  read _ _ := by
    refine iff_of_true ⟨value, rfl⟩ ?_
    simp

namespace Declares

variable {build : Record (α → β)} {shapes : List FieldShape} {name : String} {decoder : Decoder α}
  {defect : Json → Prop}

/-- A field stands behind the fields before it. -/
theorem single (declares : Declares format build shapes) (judges : Judges format decoder defect)
    {isRequired : Bool} {absent : Fields → Nat → Except Fault α}
    (stands : ∀ fields position, (∃ value, absent fields position = .ok value) ↔ isRequired = false) :
    Declares format (build <*> Record.single name decoder absent)
      (shapes ++ [⟨name, isRequired, defect⟩]) where
  names := by
    rw [Record.names_seq, declares.names, List.map_append]
    rfl
  declared := Record.mem_names_seq_single declares.declared
  judged distinct shape member := by
    rcases List.mem_append.1 member with earlier | last
    · obtain ⟨judge, judges, passed⟩ := declares.judged (List.nodup_append.1 distinct).1 shape earlier
      exact ⟨judge, by rw [Record.judge?_seq, judges, Option.some_or], passed⟩
    · obtain rfl := List.mem_singleton.1 last
      refine ⟨_, Record.judge?_seq_single declares.declared distinct, fun document => ?_⟩
      rw [← judges document]
      exact Except.map_eq_ok_iff.trans (by simp)
  read position fields := by
    have own : (∃ value, (Record.single name decoder absent).read format
          (position + build.names.length) fields = .ok value) ↔
        ¬ FieldShape.Faulty ⟨name, isRequired, defect⟩ (fields.find? (position + shapes.length) name) := by
      rw [declares.names, List.length_map]
      cases found : fields.find? (position + shapes.length) name with
      | none =>
        rw [Record.read_single_of_absent found, stands]
        simp [FieldShape.Faulty]
      | some document =>
        rw [Record.read_single_of_find found]
        exact judges document
    rw [forall_getElem?_concat, ← declares.read, ← own]
    simp only [Record.read_seq_eq_ok_iff]
    constructor
    · rintro ⟨_, make, value, before, last, -⟩
      exact ⟨⟨make, before⟩, value, last⟩
    · rintro ⟨⟨make, before⟩, value, last⟩
      exact ⟨_, make, value, before, last, rfl⟩

theorem required (declares : Declares format build shapes) (judges : Judges format decoder defect) :
    Declares format (build <*> Record.required name decoder) (shapes ++ [.required name defect]) :=
  declares.single judges fun _ _ => by simp

theorem defaulted (declares : Declares format build shapes) (judges : Judges format decoder defect)
    {default : α} :
    Declares format (build <*> Record.defaulted name decoder default)
      (shapes ++ [.defaulted name defect]) :=
  declares.single judges fun _ _ => by simp

theorem optional {build : Record (Option α → β)} (declares : Declares format build shapes)
    (judges : Judges format decoder defect) :
    Declares format (build <*> Record.optional name decoder) (shapes ++ [.optional name defect]) :=
  declares.defaulted judges.nullable

/-- Where a record is read from a document, no field of it may be faulty there. -/
theorem read_fieldsOf {record : Record α} (declares : Declares format record shapes)
    (distinct : record.names.Nodup) (title : String) (document : Json) :
    (∃ value, record.read format 0 (record.fieldsOf title document) = .ok value) ↔
      ∀ shape ∈ shapes, ¬ shape.Faulty (field? (shapes.map FieldShape.name) shape.name document) := by
  have placed : ∀ index (shape : FieldShape), shapes[index]? = some shape →
      (record.fieldsOf title document).find? (0 + index) shape.name =
        field? (shapes.map FieldShape.name) shape.name document := by
    intro index shape there
    rw [Nat.zero_add, Record.find?_fieldsOf distinct, declares.names]
    rw [declares.names, List.getElem?_map, there]
    rfl
  rw [declares.read]
  constructor
  · intro fine shape member
    obtain ⟨index, there⟩ := List.mem_iff_getElem?.1 member
    rw [← placed index shape there]
    exact fine index shape there
  · intro fine index shape there
    rw [placed index shape there]
    exact fine shape (List.mem_of_getElem? there)

/-- An object has the outer form of a record if each of its members is that of a field and flawless. -/
theorem framed_object_iff {record : Record α} (declares : Declares format record shapes)
    (distinct : record.names.Nodup) {members : List (String × Json)} :
    record.Framed format (.object members) ↔
      ∀ member ∈ ascending members, ∃ shape ∈ shapes, shape.name = member.1 ∧ ¬ shape.defect member.2 := by
  refine forall₂_congr fun member _ => ?_
  unfold Record.judgeMember
  cases judges : record.judge? member.1 with
  | none =>
    refine iff_of_false nofun ?_
    rintro ⟨shape, member, same, -⟩
    obtain ⟨judge, found, -⟩ := declares.judged distinct shape member
    rw [same, judges] at found
    cases found
  | some judge =>
    have own : ∀ shape ∈ shapes, shape.name = member.1 →
        (judge format member.2 = .ok () ↔ ¬ shape.defect member.2) := by
      intro shape declared same
      obtain ⟨_, found, passed⟩ := declares.judged distinct shape declared
      rw [same, judges] at found
      cases found
      exact passed member.2
    refine Except.mapError_eq_ok_iff.trans ⟨fun passed => ?_, ?_⟩
    · have named := declares.declared member.1 (by rw [judges]; exact Option.some_ne_none judge)
      rw [declares.names] at named
      obtain ⟨shape, declared, same⟩ := List.mem_map.1 named
      exact ⟨shape, declared, same, (own shape declared same).1 passed⟩
    · rintro ⟨shape, declared, same, flawless⟩
      exact (own shape declared same).2 flawless

/-- A record whose fields have different names is read from exactly the documents without a defect. -/
theorem judges {record : Record α} (declares : Declares format record shapes)
    (distinct : record.names.Nodup) (title : String) :
    Judges format (record.decoder title) (RecordDefect shapes) := by
  intro document
  simp only [Record.decoder_eq_ok_iff, exists_and_left, declares.read_fieldsOf distinct]
  cases document with
  | object members =>
    simp only [declares.framed_object_iff distinct, recordDefect_object_iff, not_or, not_exists, not_and]
    -- With no faulty field, a member can only spoil the outer form by a name that is not declared.
    refine and_congr_left fun fine => ⟨fun framed name present undeclared => ?_, fun known member listed => ?_⟩
    · obtain ⟨value, member⟩ := exists_mem_ascending present
      obtain ⟨shape, declared, same, -⟩ := framed _ member
      exact undeclared (List.mem_map.2 ⟨shape, declared, same⟩)
    · have present : member.1 ∈ members.map Prod.fst :=
        List.mem_map_of_mem (SortedMap.mem_of_mem_ofList listed)
      obtain ⟨shape, declared, same⟩ := List.mem_map.1 (not_not.1 (known member.1 present))
      have found : field? (shapes.map FieldShape.name) shape.name (.object members) = some member.2 := by
        rw [same]
        exact mem_ascending_iff.1 listed
      have sound := fine shape declared
      rw [found] at sound
      exact ⟨shape, declared, same, sound⟩
  | array items =>
    have count : record.names.length = shapes.length := by rw [declares.names, List.length_map]
    simp only [Record.Framed, count, recordDefect_array_iff, not_or, Nat.not_lt, not_exists, not_and]
  | _ => exact iff_of_false And.left (not_not.2 (.noRecord (by simp) (by simp)))

end Declares

end AppBundle.Document
