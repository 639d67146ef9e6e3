import AppBundle.Proofs.Document.Decode

/-! # Records read from their members

The members that are written for a record bear the names of its fields, and the value of each of them is
read by its field; a field that needs not be there can be without a member. Said of the records that a
record is put together from, this is a property of the fields one after the other, and for a record whose
fields have different names it makes the decoder read the value from the object of the members.
-/

namespace AppBundle.Document.Record

variable {α β : Type} {format : Format}

/-- A record reads a value from members that stand for its fields, except for those that need not be
there. -/
structure Reads (format : Format) (record : Record α) (members : List (String × Json)) (value : α) :
    Prop where
  names : (members.map Prod.fst).Sublist record.names
  /-- No other members than those of the fields are judged. -/
  declared : ∀ name, record.judge? name ≠ none → name ∈ record.names
  /-- Each member passes the judgement of its field, if no field hides another one. -/
  judged : record.names.Nodup → ∀ member ∈ members,
    ∃ judge, record.judge? member.1 = some judge ∧ judge format member.2 = .ok ()
  /-- Wherever the members, and no others, are found under their names, the value is made of them. -/
  read : record.names.Nodup → ∀ fields : Fields,
    (∀ member ∈ members, ∀ position, fields.find? position member.1 = some member.2) →
      (∀ name ∈ record.names, name ∉ members.map Prod.fst →
        ∀ position, fields.find? position name = none) →
      ∀ position, record.read format position fields = .ok value

/-- A record without fields reads its value from no members. -/
theorem reads_pure (value : α) : Reads format (pure value) [] value where
  names := List.Sublist.refl _
  declared _ judged := absurd rfl judged
  judged _ _ member := nomatch member
  read _ _ _ _ _ := rfl

section Field

variable {name : String} {decoder : Decoder α} {absent : Fields → Nat → Except Fault α}

@[simp] theorem names_seq (build : Record (α → β)) (argument : Record α) :
    (build <*> argument).names = build.names ++ argument.names := rfl

@[simp] theorem judge?_seq (build : Record (α → β)) (argument : Record α) (other : String) :
    (build <*> argument).judge? other = (build.judge? other).or (argument.judge? other) := rfl

theorem judge?_single (other : String) : (single name decoder absent).judge? other =
    if other = name then some fun format value => (decoder format value).map fun _ => () else none := rfl

theorem read_seq (build : Record (α → β)) (argument : Record α) (position : Nat) (fields : Fields) :
    (build <*> argument).read format position fields = (do
      let make ← build.read format position fields
      let value ← argument.read format (position + build.names.length) fields
      return make value) := rfl

theorem read_single_of_absent {fields : Fields} {position : Nat}
    (missing : fields.find? position name = none) :
    (single name decoder absent).read format position fields = absent fields position := by
  simp only [single, missing]

theorem read_single_of_find {fields : Fields} {position : Nat} {document : Json}
    (placed : fields.find? position name = some document) :
    (single name decoder absent).read format position fields = decoder format document := by
  simp only [single, placed]

theorem mem_names_seq_single {build : Record (α → β)}
    (declared : ∀ other, build.judge? other ≠ none → other ∈ build.names) (other : String)
    (judged : (build <*> single name decoder absent).judge? other ≠ none) :
    other ∈ (build <*> single name decoder absent).names := by
  rw [names_seq, List.mem_append]
  by_cases same : other = name
  · exact .inr (List.mem_singleton.2 same)
  · rw [judge?_seq, judge?_single, if_neg same, Option.or_none] at judged
    exact .inl (declared other judged)

/-- Behind fields of other names a field is judged by its own decoder. -/
theorem judge?_seq_single {build : Record (α → β)}
    (declared : ∀ other, build.judge? other ≠ none → other ∈ build.names)
    (distinct : (build <*> single name decoder absent).names.Nodup) :
    (build <*> single name decoder absent).judge? name =
      some fun format value => (decoder format value).map fun _ => () := by
  obtain ⟨-, -, apart⟩ := List.nodup_append.1 distinct
  have fresh : build.judge? name = none := by
    by_contra hidden
    exact apart name (declared name hidden) name (List.mem_singleton_self name) rfl
  rw [judge?_seq, fresh, Option.none_or, judge?_single, if_pos rfl]

/-- A member of the fields before a field is judged as it is without that field. -/
theorem Reads.judged_field {build : Record (α → β)} {members : List (String × Json)} {make : α → β}
    (reads : Reads format build members make) (distinct : build.names.Nodup)
    {member : String × Json} (earlier : member ∈ members) :
    ∃ judge, (build <*> single name decoder absent).judge? member.1 = some judge ∧
      judge format member.2 = .ok () := by
  obtain ⟨judge, judges, passed⟩ := reads.judged distinct member earlier
  exact ⟨judge, by rw [judge?_seq, judges, Option.some_or], passed⟩

/-- A field is read behind the fields before it. -/
theorem Reads.field {build : Record (α → β)} {members : List (String × Json)} {make : α → β}
    (reads : Reads format build members make) {document : Json} {value : α}
    (found : decoder format document = .ok value) :
    Reads format (build <*> single name decoder absent) (members ++ [(name, document)]) (make value) where
  names := by
    rw [List.map_append]
    exact reads.names.append (List.Sublist.refl _)
  declared := mem_names_seq_single reads.declared
  judged distinct member listed := by
    rcases List.mem_append.1 listed with earlier | last
    · exact reads.judged_field (List.nodup_append.1 distinct).1 earlier
    · obtain rfl := List.mem_singleton.1 last
      refine ⟨_, judge?_seq_single reads.declared distinct, ?_⟩
      simp only [found, Except.map]
  read distinct fields placed missing position := by
    obtain ⟨before, -, apart⟩ := List.nodup_append.1 distinct
    have earlier := reads.read before fields
      (fun member listed => placed member (List.mem_append_left _ listed))
    have last := placed (name, document) (List.mem_append_right _ (List.mem_singleton_self _))
    rw [read_seq, earlier, Except.ok_bind, read_single_of_find (last _), found]
    · rfl
    · intro other declared unlisted
      refine missing other (List.mem_append_left _ declared) ?_
      rw [List.map_append, List.mem_append, not_or]
      exact ⟨unlisted, fun same => apart other declared name (List.mem_singleton_self name)
        (List.mem_singleton.1 same)⟩

/-- A field without a member has the value that stands for its absence. -/
theorem Reads.omitted {build : Record (α → β)} {members : List (String × Json)} {make : α → β}
    (reads : Reads format build members make) {value : α}
    (stands : ∀ fields position, absent fields position = .ok value) :
    Reads format (build <*> single name decoder absent) members (make value) where
  names := reads.names.trans (List.sublist_append_left ..)
  declared := mem_names_seq_single reads.declared
  judged distinct _ listed := reads.judged_field (List.nodup_append.1 distinct).1 listed
  read distinct fields placed missing position := by
    obtain ⟨before, -, apart⟩ := List.nodup_append.1 distinct
    have earlier := reads.read before fields placed fun other declared =>
      missing other (List.mem_append_left _ declared)
    have own : name ∈ (build <*> single name decoder absent).names :=
      List.mem_append_right _ (List.mem_singleton_self name)
    have unlisted : name ∉ members.map Prod.fst := fun listed =>
      apart name (reads.names.subset listed) name (List.mem_singleton_self name) rfl
    rw [read_seq, earlier, Except.ok_bind, read_single_of_absent (missing name own unlisted _), stands]
    rfl

/-- A field that may be absent has no member for an absent value. -/
theorem Reads.optional {build : Record (Option α → β)} {members : List (String × Json)}
    {make : Option α → β} (reads : Reads format build members make) (encode : α → Json)
    {value : Option α} (present : ∀ value, encode value ≠ .null)
    (undone : ∀ found ∈ value, decoder format (encode found) = .ok found) :
    Reads format (build <*> Record.optional name decoder)
      (members ++ (value.map fun found => (name, encode found)).toList) (make value) := by
  cases value with
  | none =>
    rw [Option.map_none, Option.toList_none, List.append_nil]
    exact reads.omitted fun _ _ => rfl
  | some found =>
    refine reads.field ?_
    rw [nullable]
    · rw [undone found rfl]
      rfl
    · exact present found

/-- What a record reads is made of what its parts read. -/
theorem read_seq_eq_ok_iff {build : Record (α → β)} {argument : Record α} {position : Nat}
    {fields : Fields} {result : β} :
    (build <*> argument).read format position fields = .ok result ↔
      ∃ make value, build.read format position fields = .ok make ∧
        argument.read format (position + build.names.length) fields = .ok value ∧
        make value = result := by
  rw [read_seq, Except.bind_eq_ok_iff]
  refine exists_congr fun make => ?_
  simp only [bind_pure_comp, Except.map_eq_ok_iff, exists_and_left]

/-- Everything that a record reads has a property. -/
structure Gives (record : Record α) (property : α → Prop) : Prop where
  of_read : ∀ {format position fields value},
    record.read format position fields = .ok value → property value

protected theorem Gives.pure {property : α → Prop} {value : α} (given : property value) :
    Gives (pure value) property where
  of_read read := by
    obtain rfl := Except.ok.inj read
    exact given

/-- What a record gives has a property if it has it whatever the last field is. -/
protected theorem Gives.seq {build : Record (α → β)} {argument : Record α} {property : β → Prop}
    (given : build.Gives fun make => ∀ value, property (make value)) :
    (build <*> argument).Gives property where
  of_read read := by
    obtain ⟨make, value, before, -, rfl⟩ := read_seq_eq_ok_iff.1 read
    exact given.of_read before value

/-- A part of what a record reads is what a field reads at some place behind the start of the record. -/
structure Part {γ : Type} (record : Record α) (place : Nat) (field : Record γ) (part : α → γ) : Prop where
  of_read : ∀ {format position fields value}, record.read format position fields = .ok value →
    field.read format (position + place) fields = .ok (part value)

/-- The last field is read behind the others. -/
theorem Part.last {build : Record (α → β)} {field : Record α} {part : β → α}
    (given : build.Gives fun make => ∀ value, part (make value) = value) :
    (build <*> field).Part build.names.length field part where
  of_read read := by
    obtain ⟨make, value, before, own, rfl⟩ := read_seq_eq_ok_iff.1 read
    rwa [given.of_read before value]

/-- A field stays where it is when another one follows. -/
theorem Part.before {γ : Type} {build : Record (α → β)} {argument : Record α} {place : Nat}
    {field : Record γ} {part : β → γ} (own : ∀ value, build.Part place field fun make => part (make value)) :
    (build <*> argument).Part place field part where
  of_read read := by
    obtain ⟨make, value, before, -, rfl⟩ := read_seq_eq_ok_iff.1 read
    exact (own value).of_read before

/-- A field that has to be there is read from its member. -/
theorem exists_of_read_required {position : Nat} {fields : Fields} {value : α}
    (read : (required name decoder).read format position fields = .ok value) :
    ∃ document, fields.find? position name = some document ∧ decoder format document = .ok value := by
  unfold required single at read
  dsimp only at read
  split at read
  · next document found => exact ⟨document, found, read⟩
  · cases read

/-- A field that may be absent is read from its member or has the value that stands for its absence. -/
theorem exists_of_read_defaulted {position : Nat} {fields : Fields} {default value : α}
    (read : (defaulted name decoder default).read format position fields = .ok value) :
    fields.find? position name = none ∧ value = default ∨
      ∃ document, fields.find? position name = some document ∧ decoder format document = .ok value := by
  unfold defaulted single at read
  dsimp only at read
  split at read
  · next document found => exact .inr ⟨document, found, read⟩
  · next missing => exact .inl ⟨missing, (Except.ok.inj read).symm⟩

/-- A present value of a field that may be absent is read from a document. -/
theorem exists_of_read_optional {position : Nat} {fields : Fields} {value : α}
    (read : (Record.optional name decoder).read format position fields = .ok (some value)) :
    ∃ document, decoder format document = .ok value := by
  unfold Record.optional defaulted single at read
  dsimp only at read
  split at read
  · next document _ =>
    unfold nullable at read
    split at read
    · cases read
    · obtain ⟨_, found, same⟩ := Except.map_eq_ok_iff.1 read
      obtain rfl := Option.some.inj same
      exact ⟨_, found⟩
  · cases read

end Field

section Decoder

variable {record : Record α} {title : String} {document : Json} {value : α}

/-- The fields that a record is read from. -/
def fieldsOf (record : Record α) (title : String) : Json → Fields
  | .object members => ofMembers members
  | .array items => ofItems title record.names.length items
  | _ => ofMembers []

/-- A document has the outer form of a record: every member of an object is that of a field and can be read,
and an array has no more items than there are fields. -/
def Framed (record : Record α) (format : Format) : Json → Prop
  | .object members => ∀ member ∈ ascending members, record.judgeMember format member = .ok ()
  | .array items => items.length ≤ record.names.length
  | _ => False

/-- A record is read from a document of its outer form if it is read from the fields there. -/
theorem decoder_eq_ok_iff :
    record.decoder title format document = .ok value ↔
      record.Framed format document ∧
        record.read format 0 (record.fieldsOf title document) = .ok value := by
  cases document with
  | object members =>
    refine Except.check_bind_eq_ok_iff.trans (and_congr ?_ Iff.rfl)
    exact forM_eq_ok_iff
  | array items =>
    refine Except.bind_eq_ok_iff.trans ?_
    simp only [Framed, fieldsOf]
    by_cases surplus : record.names.length < items.length
    · simp [surplus, fail, Nat.not_le.2 surplus]
    · simp [surplus, Nat.le_of_not_lt surplus, pure, Except.pure]
  | _ => simp [decoder, mismatch, fail, Framed]

/-- A record that is read from an object is made of the members of the object. -/
theorem read_of_decoder_object {members : List (String × Json)}
    (read : record.decoder title format (.object members) = .ok value) :
    record.read format 0 (ofMembers members) = .ok value :=
  (decoder_eq_ok_iff.1 read).2

/-- In either form a record is made of fields. -/
theorem exists_read_of_decoder (read : record.decoder title format document = .ok value) :
    ∃ fields, record.read format 0 fields = .ok value :=
  ⟨_, (decoder_eq_ok_iff.1 read).2⟩

end Decoder

theorem judgeMember_of_judge? {record : Record α} {member : String × Json} {judge : Decoder Unit}
    (judges : record.judge? member.1 = some judge) (passed : judge format member.2 = .ok ()) :
    record.judgeMember format member = .ok () := by
  simp only [judgeMember, judges, inMember, passed, Except.mapError]

/-- The decoder of a record whose fields have different names reads the object of its members. -/
theorem Reads.decoder {record : Record α} {members : List (String × Json)} {value : α}
    (reads : Reads format record members value) (distinct : record.names.Nodup) (title : String) :
    record.decoder title format (.object members) = .ok value := by
  have framed : record.Framed format (.object members) := by
    intro member visited
    have listed := SortedMap.mem_of_mem_ofList visited
    obtain ⟨judge, judges, passed⟩ := reads.judged distinct member listed
    exact judgeMember_of_judge? judges passed
  have placed : ∀ member ∈ members, ∀ position,
      (ofMembers members).find? position member.1 = some member.2 := by
    intro member listed position
    exact SortedMap.get?_ofList_of_mem (reads.names.nodup distinct) listed
  have missing : ∀ name ∈ record.names, name ∉ members.map Prod.fst →
      ∀ position, (ofMembers members).find? position name = none := by
    intro name _ unlisted position
    exact SortedMap.get?_insertMany_of_notMem .empty unlisted
  exact decoder_eq_ok_iff.2 ⟨framed, reads.read distinct (ofMembers members) placed missing 0⟩

end AppBundle.Document.Record
