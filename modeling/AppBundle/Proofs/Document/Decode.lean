import AppBundle.Document.Record
import AppBundle.Document.Variant
import AppBundle.Proofs.Collection

/-! # Decoders that undo an encoding

A decoder undoes an encoding if it reads every value from the document that is written for it. The
decoders of lists, sets, maps and optional values do so if those of their parts do. Sets and maps are
written in ascending order, in which they are held, and a map needs names that keep the order of its keys.
A number is read back if the format has integers as large, and what is read from a document never is larger.
-/

namespace AppBundle.Document

variable {α κ ν : Type} {format : Format}

/-- Every value is read from the document that is written for it. -/
def Undoes (format : Format) (decoder : Decoder α) (encode : α → Json) : Prop :=
  ∀ value, decoder format (encode value) = .ok value

theorem undoes_string : Undoes format string .string := fun _ => rfl

theorem undoes_bool : Undoes format bool .bool := fun _ => rfl

/-- Whether a format has integers as large as a number. -/
def Fits (format : Format) (value : UInt64) : Prop := (value.toNat : Int) ≤ format.integerBounds.2

theorem fits_json (value : UInt64) : Fits .json value := by
  have bound := value.toNat_lt
  simp only [Fits, Format.integerBounds]
  omega

theorem natural64_of_fits {value : UInt64} (fits : Fits format value) :
    natural64 format (.ofNat value.toNat) = .ok value := by
  have bound := value.toNat_lt
  have natural : 0 ≤ (value.toNat : Int) ∧ (value.toNat : Int) ≤ 0xFFFFFFFFFFFFFFFF := by omega
  have least : format.integerBounds.1 ≤ 0 := by cases format <;> decide
  have within : format.integerBounds.1 ≤ (value.toNat : Int) ∧
      (value.toNat : Int) ≤ format.integerBounds.2 := ⟨Int.le_trans least natural.1, fits⟩
  have integer : format.integer? (.integer value.toNat) = some (value.toNat : Int) := if_pos within
  simp only [natural64, Json.ofNat, integer, if_pos natural, Int.toNat_natCast, UInt64.ofNat_toNat]

theorem undoes_natural64 : Undoes .json natural64 fun value => .ofNat value.toNat :=
  fun value => natural64_of_fits (fits_json value)

theorem integer?_eq_some_iff {number : Json.Number} {value : Int} :
    format.integer? number = some value ↔
      number = .integer value ∧ format.integerBounds.1 ≤ value ∧ value ≤ format.integerBounds.2 := by
  cases number with
  | integer found =>
    simp only [Format.integer?, Option.ite_none_right_eq_some, Option.some.injEq, Json.Number.integer.injEq]
    constructor
    · rintro ⟨within, rfl⟩
      exact ⟨rfl, within⟩
    · rintro ⟨rfl, within⟩
      exact ⟨within, rfl⟩
  | decimal => simp [Format.integer?]

/-- No larger number is read than the format has. -/
theorem fits_of_natural64 {document : Json} {value : UInt64}
    (read : natural64 format document = .ok value) : Fits format value := by
  unfold natural64 at read
  split at read
  · next number =>
    split at read
    · cases read
    · next found integer =>
      split at read
      · next natural =>
        obtain rfl := Except.ok.inj read
        have within := (integer?_eq_some_iff.1 integer).2.2
        have size : (UInt64.ofNat found.toNat).toNat = found.toNat :=
          UInt64.toNat_ofNat_of_lt' (by rw [UInt64.size]; omega)
        rw [Fits, size]
        omega
      · cases read
  · cases read

theorem refined_eq_ok_iff {parse : String → Except ModelError α} {document : Json} {value : α} :
    refined parse format document = .ok value ↔ ∃ text, document = .string text ∧ parse text = .ok value := by
  rw [refined, Except.bind_eq_ok_iff]
  cases document <;> simp [string, mismatch, fail, Except.mapError_eq_ok_iff]

theorem undoes_refined {parse : String → Except ModelError α} {text : α → String}
    (parsed : ∀ value, parse (text value) = .ok value) :
    Undoes format (refined parse) fun value => .string (text value) := by
  intro value
  simp only [refined, string, Except.ok_bind, parsed, Except.mapError]

theorem undoes_enumeration {known : List String} {variant? : String → Option α} {name : α → String}
    (found : ∀ value, variant? (name value) = some value) :
    Undoes format (enumeration known variant?) fun value => .string (name value) := by
  intro value
  simp only [enumeration, named, found]

/-- A list is read if every element is read from the document that is written for it. -/
theorem mapM_map_eq_ok {ε β : Type} {write : α → β} {read : β → Except ε α} {values : List α}
    (undone : ∀ value ∈ values, read (write value) = .ok value) :
    (values.map write).mapM read = .ok values := by
  rw [mapM_eq_ok_iff, List.forall₂_map_left_iff, List.forall₂_same]
  exact undone

/-- Members whose names ascend are visited as they are written. -/
theorem ascending_eq {members : List (String × Json)}
    (ordered : members.Pairwise fun a b => compare a.1 b.1 = .lt) : ascending members = members :=
  SortedMap.toList_ofList_of_ascending ordered

theorem mem_ascending_iff {members : List (String × Json)} {member : String × Json} :
    member ∈ ascending members ↔ (SortedMap.ofList members).get? member.1 = some member.2 :=
  (SortedMap.get?_eq_some_iff _).symm

theorem exists_mem_ascending {members : List (String × Json)} {name : String}
    (present : name ∈ members.map Prod.fst) : ∃ value, (name, value) ∈ ascending members := by
  simpa only [mem_ascending_iff] using SortedMap.mem_keys_iff.1 (SortedMap.mem_keys_ofList_iff.2 present)

/-- A map is read if every value is read from the document that is written for it, and the names of the
keys have the order of the keys. -/
theorem map_eq_ok [Ord κ] [Std.TransOrd κ] {decoder : Decoder ν} {encode : ν → Json}
    {key : String → Except ModelError κ} (name : κ → String)
    (parsed : ∀ value, key (name value) = .ok value)
    (monotone : ∀ first second, compare first second = .lt → compare (name first) (name second) = .lt)
    {values : SortedMap κ ν}
    (undone : ∀ entry ∈ values.toList, decoder format (encode entry.2) = .ok entry.2) :
    map key decoder format (.object (values.toList.map fun entry => (name entry.1, encode entry.2))) =
      .ok values := by
  have ordered : (values.toList.map fun entry => (name entry.1, encode entry.2)).Pairwise
      fun a b => compare a.1 b.1 = .lt := by
    rw [List.pairwise_map]
    exact values.ascending.imp fun below => monotone _ _ below
  simp only [Document.map, ascending_eq ordered]
  rw [Except.bind_eq_ok_iff]
  refine ⟨values.toList, mapM_map_eq_ok fun entry member => ?_, congrArg Except.ok values.ofList_toList⟩
  simp only [parsed, undone entry member, inMember, Except.mapError, Except.ok_bind]
  rfl

/-- A set is read from an array: the members are what the items are read as. -/
theorem exists_items_of_set [Ord α] [Std.TransOrd α] [Std.LawfulEqOrd α] {decoder : Decoder α}
    {document : Json} {values : SortedSet α} (read : set decoder format document = .ok values) :
    ∃ items, document = .array items ∧
      (∀ item ∈ items, ∃ value ∈ values, decoder format item = .ok value) ∧
      ∀ value ∈ values, ∃ item ∈ items, decoder format item = .ok value := by
  obtain ⟨results, elements, rfl⟩ := Except.map_eq_ok_iff.1 read
  cases document with
  | array items =>
    have visited := mapM_eq_ok_iff.1 elements
    simp only [SortedSet.mem_ofList_iff]
    exact ⟨items, rfl, fun _ listed => exists_mem_of_forall₂ visited.flip listed,
      fun _ member => exists_mem_of_forall₂ visited member⟩
  | _ => cases elements

section Maps

variable [Ord κ] [Std.TransOrd κ] {decoder : Decoder ν} {key : String → Except ModelError κ}
  {name : κ → String} {document : Json} {values : SortedMap κ ν}

/-- A map is read from an object, each entry from the member that bears the name of its key. -/
theorem exists_members_of_map (named : ∀ text value, key text = .ok value → name value = text)
    (read : map key decoder format document = .ok values) :
    ∃ members entries, document = .object members ∧ values = .ofList entries ∧
      List.Forall₂ (fun member entry => name entry.1 = member.1 ∧ decoder format member.2 = .ok entry.2)
        (ascending members) entries := by
  unfold map at read
  split at read
  · next members =>
    obtain ⟨entries, visited, made⟩ := Except.bind_eq_ok_iff.1 read
    refine ⟨members, entries, rfl, (Except.ok.inj made).symm, (mapM_eq_ok_iff.1 visited).imp ?_⟩
    intro member entry step
    obtain ⟨_, found, rest⟩ := Except.bind_eq_ok_iff.1 step
    obtain ⟨_, stored, same⟩ := Except.bind_eq_ok_iff.1 rest
    obtain rfl := Except.ok.inj same
    exact ⟨named _ _ (Except.mapError_eq_ok_iff.1 found), Except.mapError_eq_ok_iff.1 stored⟩
  · cases read

/-- Every value of a map is read from the member that bears the name of its key. -/
theorem exists_of_map (named : ∀ text value, key text = .ok value → name value = text)
    (read : map key decoder format document = .ok values) {entry : κ × ν}
    (member : entry ∈ values.toList) :
    ∃ members source, document = .object members ∧
      (SortedMap.ofList members).get? (name entry.1) = some source ∧ decoder format source = .ok entry.2 := by
  obtain ⟨members, entries, rfl, rfl, visited⟩ := exists_members_of_map named read
  obtain ⟨⟨_, source⟩, listed, rfl, stored⟩ :=
    exists_mem_of_forall₂ visited (SortedMap.mem_of_mem_ofList member)
  exact ⟨members, source, rfl, mem_ascending_iff.1 listed, stored⟩

section Keys

variable [Std.LawfulEqOrd κ]

/-- The names of the members that a map is read from are those of its keys. -/
theorem mem_names_of_map (named : ∀ text value, key text = .ok value → name value = text)
    (read : map key decoder format document = .ok values) :
    ∃ members, document = .object members ∧
      ∀ text, text ∈ members.map Prod.fst ↔ ∃ value ∈ values.keys, name value = text := by
  obtain ⟨members, entries, rfl, rfl, visited⟩ := exists_members_of_map named read
  have names : (SortedMap.ofList members).keys = entries.map fun entry => name entry.1 := by
    rw [← List.forall₂_eq_eq_eq, SortedMap.keys, List.forall₂_map_left_iff, List.forall₂_map_right_iff]
    exact visited.imp fun _ _ same => same.1.symm
  refine ⟨members, rfl, fun text => ?_⟩
  calc text ∈ members.map Prod.fst
      ↔ text ∈ (SortedMap.ofList members).keys := SortedMap.mem_keys_ofList_iff.symm
    _ ↔ text ∈ (entries.map Prod.fst).map name := by
      rw [names, List.map_map]
      rfl
    _ ↔ ∃ value ∈ (SortedMap.ofList entries).keys, name value = text :=
      List.mem_map.trans (exists_congr fun value => and_congr SortedMap.mem_keys_ofList_iff.symm Iff.rfl)

/-- The keys of a map are the names of the members that it is read from. -/
theorem mem_keys_of_map (injective : Function.Injective name)
    (named : ∀ text value, key text = .ok value → name value = text)
    (read : map key decoder format document = .ok values) :
    ∃ members, document = .object members ∧
      ∀ value, value ∈ values.keys ↔ name value ∈ members.map Prod.fst := by
  obtain ⟨members, rfl, names⟩ := mem_names_of_map named read
  refine ⟨members, rfl, fun value => ?_⟩
  rw [names]
  constructor
  · intro stored
    exact ⟨value, stored, rfl⟩
  · rintro ⟨other, stored, same⟩
    exact injective same ▸ stored

end Keys

end Maps

namespace Undoes

variable {decoder : Decoder α} {encode : α → Json}

theorem injective (undoes : Undoes format decoder encode) : Function.Injective encode := by
  intro value other same
  have read := undoes value
  rw [same, undoes other] at read
  exact (Except.ok.inj read).symm

theorem list (undoes : Undoes format decoder encode) :
    Undoes format (Document.list decoder) (.ofList encode) :=
  fun _ => mapM_map_eq_ok fun value _ => undoes value

theorem set [Ord α] [Std.TransOrd α] (undoes : Undoes format decoder encode) :
    Undoes format (Document.set decoder) fun values => .ofList encode values.toList := by
  intro values
  simp only [Document.set, undoes.list values.toList, Functor.map, Except.map,
    SortedSet.ofList_toList]

/-- Null stands for an absent value, so no present one may be written as null. -/
theorem nullable (undoes : Undoes format decoder encode) (present : ∀ value, encode value ≠ .null) :
    Undoes format (Record.nullable decoder) (.ofOption encode) := by
  intro value
  cases value with
  | none => rfl
  | some value =>
    rw [Json.ofOption, Record.nullable, undoes]
    · rfl
    · exact present value

theorem map [Ord κ] [Std.TransOrd κ] {decoder : Decoder ν} {encode : ν → Json}
    (undoes : Undoes format decoder encode) {key : String → Except ModelError κ} (name : κ → String)
    (parsed : ∀ value, key (name value) = .ok value)
    (monotone : ∀ first second, compare first second = .lt → compare (name first) (name second) = .lt) :
    Undoes format (Document.map key decoder) fun values =>
      .object (values.toList.map fun entry => (name entry.1, encode entry.2)) :=
  fun _ => map_eq_ok name parsed monotone fun entry _ => undoes entry.2

end Undoes

end AppBundle.Document
