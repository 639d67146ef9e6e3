import AppBundle.Proofs.Document.Fields

/-! # What is wrong with a document

A decoder turns down exactly the documents with a defect. What is a defect is said of the document alone,
not of the way in which it is read: a map, for one, has a defect if a name in it is no key or if there is
one in a value of it. A decoder that is put together from others is judged by its parts, so that a defect
counts at any depth and whatever stands beside it.
-/

namespace AppBundle.Document

variable {α κ ν : Type} {format : Format}

/-- A decoder reads exactly the documents without a defect. -/
def Judges (format : Format) (decoder : Decoder α) (defect : Json → Prop) : Prop :=
  ∀ document, (∃ value, decoder format document = .ok value) ↔ ¬ defect document

theorem Judges.exists_error_iff {decoder : Decoder α} {defect : Json → Prop}
    (judges : Judges format decoder defect) {document : Json} :
    (∃ fault, decoder format document = .error fault) ↔ defect document := by
  have read := not_congr (judges document)
  rw [not_not] at read
  rw [← read]
  cases decoder format document <;> simp

/-- A document is no text. -/
def NoText (document : Json) : Prop := ∀ text, document ≠ .string text

/-- A document is no natural number that the format has. -/
def NoNatural (format : Format) (document : Json) : Prop :=
  ∀ value : Nat, (value : Int) ≤ format.integerBounds.2 → document ≠ .number (.integer value)

/-- A settings document names a variant without content: as a text, or as the only key of a table with
nothing under it. -/
inductive NamesVariant (name : String) : Json → Prop
  | text : NamesVariant name (.string name)
  | table {members : List (String × Json)} (only : ascending members = [(name, .object [])]) :
    NamesVariant name (.object members)
  | array {members : List (String × Json)} (only : ascending members = [(name, .array [])]) :
    NamesVariant name (.object members)

/-- A document names none of the known variants. -/
def NoVariant (known : List String) (document : Json) : Prop :=
  ∀ name ∈ known, ¬ NamesVariant name document

/-- What can be wrong with a map. -/
inductive MapDefect (Key : String → Prop) (defect : Json → Prop) : Json → Prop
  | noMap {document : Json} (other : ∀ members, document ≠ .object members) : MapDefect Key defect document
  | key {members : List (String × Json)} {name : String} (present : name ∈ members.map Prod.fst)
    (refused : ¬ Key name) : MapDefect Key defect (.object members)
  | value {members : List (String × Json)} {name : String} {value : Json}
    (found : (SortedMap.ofList members).get? name = some value) (wrong : defect value) :
    MapDefect Key defect (.object members)

theorem judges_string : Judges format string NoText := by
  intro document
  cases document <;> simp [string, NoText, mismatch, fail]

theorem judges_natural64 : Judges format natural64 (NoNatural format) := by
  intro document
  constructor
  · rintro ⟨value, read⟩ none
    unfold natural64 at read
    split at read
    · split at read
      · cases read
      · next found integer =>
        obtain ⟨rfl, -, bound⟩ := integer?_eq_some_iff.1 integer
        split at read
        · next natural =>
          have same : ((found.toNat : Nat) : Int) = found := Int.toNat_of_nonneg natural.1
          exact none found.toNat (by rw [same]; exact bound) (by rw [same])
        · cases read
    · cases read
  · intro natural
    simp only [NoNatural, not_forall, not_not] at natural
    obtain ⟨value, bound, rfl⟩ := natural
    have small : value < 2 ^ 64 := by
      have largest : format.integerBounds.2 ≤ 0xFFFFFFFFFFFFFFFF := by cases format <;> decide
      omega
    have same : (UInt64.ofNat value).toNat = value := UInt64.toNat_ofNat_of_lt' small
    have fits : Fits format (UInt64.ofNat value) := by rw [Fits, same]; exact bound
    have read := natural64_of_fits fits
    rw [same] at read
    exact ⟨_, read⟩

theorem namesVariant_string_iff {name text : String} : NamesVariant name (.string text) ↔ name = text := by
  constructor
  · rintro ⟨⟩
    rfl
  · rintro rfl
    exact .text

theorem namesVariant_object_iff {name : String} {members : List (String × Json)} :
    NamesVariant name (.object members) ↔
      ∃ content, ascending members = [(name, content)] ∧ (content = .object [] ∨ content = .array []) := by
  constructor
  · rintro (_ | only | only)
    · exact ⟨_, only, .inl rfl⟩
    · exact ⟨_, only, .inr rfl⟩
  · rintro ⟨_, only, rfl | rfl⟩
    · exact .table only
    · exact .array only

theorem emptyTable_eq_ok_iff {content : Json} :
    emptyTable format content = .ok () ↔ content = .object [] ∨ content = .array [] := by
  unfold emptyTable
  split <;> simp_all [fail]

theorem exists_named_iff {known : List String} {variant? : String → Option α} {name : String} :
    (∃ value, named known variant? name = .ok value) ↔ ∃ value, variant? name = some value := by
  unfold named
  cases variant? name <;> simp [fail]

theorem judges_enumeration {known names : List String} {variant? : String → Option α}
    (variants : ∀ name, (∃ value, variant? name = some value) ↔ name ∈ names) :
    Judges .toml (enumeration known variant?) (NoVariant names) := by
  intro document
  simp only [NoVariant, not_forall, not_not]
  cases document with
  | string name =>
    simp only [enumeration, exists_named_iff, variants, namesVariant_string_iff, exists_prop,
      exists_eq_right]
  | object members =>
    simp only [enumeration, namesVariant_object_iff]
    rcases ascending members with - | ⟨⟨name, content⟩, - | ⟨_, _⟩⟩
    · simp [fail]
    · simp only [Except.bind_eq_ok_iff, List.cons.injEq, Prod.mk.injEq, and_true]
      constructor
      · rintro ⟨value, _, found, ⟨⟩, empty, -⟩
        have known : name ∈ names := (variants name).1 (exists_named_iff.1 ⟨_, found⟩)
        exact ⟨name, known, content, ⟨rfl, rfl⟩, emptyTable_eq_ok_iff.1 empty⟩
      · rintro ⟨_, known, _, ⟨rfl, rfl⟩, empty⟩
        obtain ⟨value, found⟩ := exists_named_iff.2 ((variants name).2 known)
        exact ⟨value, value, found, (), emptyTable_eq_ok_iff.2 empty, rfl⟩
    · simp [fail]
  | _ =>
    refine iff_of_false (by simp [enumeration, fail]) ?_
    rintro ⟨name, -, ⟨⟩⟩

/-- Only null and what has no defect can be read as a value that may be null. -/
theorem Judges.nullable {decoder : Decoder α} {defect : Json → Prop}
    (judges : Judges format decoder defect) :
    Judges format (Record.nullable decoder) fun document => document ≠ .null ∧ defect document := by
  intro document
  have present : (∃ value, (some <$> decoder format document) = .ok value) ↔ ¬ defect document := by
    simp [← judges document, Except.map_eq_ok_iff]
  cases document with
  | null => simp [Record.nullable]
  | _ => simpa [Record.nullable] using present

/-- A map is read if each of its names is a key and each of its values is read. -/
theorem Judges.map [Ord κ] [Std.TransOrd κ] {key : String → Except ModelError κ} {Key : String → Prop}
    {decoder : Decoder ν} {defect : Json → Prop} (keys : ∀ name, (∃ value, key name = .ok value) ↔ Key name)
    (judges : Judges format decoder defect) :
    Judges format (Document.map key decoder) (MapDefect Key defect) := by
  intro document
  cases document with
  | object members =>
    have passes : (∃ value, Document.map key decoder format (.object members) = .ok value) ↔
        ∀ member ∈ ascending members, Key member.1 ∧ ¬ defect member.2 := by
      simp only [Document.map, Except.bind_eq_ok_iff, pure, Except.pure, Except.ok.injEq, exists_comm,
        exists_and_left, exists_eq', and_true]
      refine exists_mapM_eq_ok_iff.trans (forall₂_congr fun member _ => ?_)
      rw [← keys, ← judges]
      simp only [Except.bind_eq_ok_iff, inMember, Except.mapError_eq_ok_iff, Except.ok.injEq]
      grind
    rw [passes]
    constructor
    · rintro fine (_ | ⟨present, refused⟩ | ⟨found, wrong⟩)
      · next other => exact other members rfl
      · obtain ⟨value, member⟩ := exists_mem_ascending present
        exact refused (fine _ member).1
      · exact (fine (_, _) (mem_ascending_iff.2 found)).2 wrong
    · rintro flawless ⟨name, value⟩ member
      have present : name ∈ members.map Prod.fst :=
        List.mem_map_of_mem (SortedMap.mem_of_mem_ofList member)
      refine ⟨?_, fun wrong => flawless (.value (mem_ascending_iff.1 member) wrong)⟩
      by_contra refused
      exact flawless (.key present refused)
  | _ =>
    refine iff_of_false ?_ (not_not.2 (.noMap ?_))
    · simp [Document.map, mismatch, fail]
    · simp

end AppBundle.Document
