import AppBundle.Command
import AppBundle.Distribution
import AppBundle.Proofs.Document.Fields

/-! # Checked texts in documents

Identifiers and name patterns are texts that pass a check. A value that is read from a document bears those
that are written in the document, each of them verbatim and checked, wherever in the value it stands: as a
field, as a name of a subpath or as a member of a set. So a document in which a text does not pass the check
is not read at all.
-/

namespace AppBundle

open Document

variable {ε α σ : Type} {format : Format} {title : String} {document : Json}

/-- What is read from documents bears nothing unchecked. Whatever it bears is written in the document, with
the same text, and passes the check; and a document in which something is written that does not pass the
check is turned down. -/
structure Screened (read : Json → Except ε α) (Written : Json → String → Prop) (Borne : α → σ → Prop)
    (check : String → Except ModelError σ) (text : σ → String) : Prop where
  verbatim : ∀ {document value scalar}, read document = .ok value → Borne value scalar →
    Written document (text scalar) ∧ check (text scalar) = .ok scalar
  refused : ∀ {document source}, Written document source → (∀ scalar, check source ≠ .ok scalar) →
    ∃ error, read document = .error error

/-- If values bear exactly what is written, it is enough that nothing can be borne unchecked. -/
theorem Screened.of_exact {read : Json → Except ε α} {Written : Json → String → Prop}
    {Borne : α → σ → Prop} {check : String → Except ModelError σ} {text : σ → String}
    (checked : ∀ scalar, check (text scalar) = .ok scalar)
    (exact : ∀ {document value}, read document = .ok value →
      ∀ source, Written document source ↔ ∃ scalar, Borne value scalar ∧ text scalar = source) :
    Screened read Written Borne check text where
  verbatim made borne := ⟨(exact made _).2 ⟨_, borne, rfl⟩, checked _⟩
  refused {document source} written bad := by
    cases result : read document with
    | error error => exact ⟨error, rfl⟩
    | ok value =>
      obtain ⟨scalar, -, rfl⟩ := (exact result source).1 written
      exact absurd (checked scalar) (bad scalar)

namespace Distribution

/-- A text is written as the name of a subpath, in a record with fields of the given names. -/
def NamesSubpath (names : List String) (document : Json) (text : String) : Prop :=
  ∃ members, field? names "placeholders" document = some (.object members) ∧ text ∈ members.map Prod.fst

/-- The names of subpaths that are read are those that are written. -/
theorem namesSubpath_iff {record : Record α} {position : Nat} {placeholders : SortedMap Identifier String}
    (distinct : record.names.Nodup) (placed : record.names[position]? = some "placeholders")
    (read : (Record.defaulted "placeholders" subpaths .empty).read format position
      (record.fieldsOf title document) = .ok placeholders) (text : String) :
    NamesSubpath record.names document text ↔ ∃ key ∈ placeholders.keys, key.text = text := by
  unfold NamesSubpath
  rcases Record.exists_field_of_defaulted distinct placed read with ⟨absent, rfl⟩ | ⟨found, there, read⟩
  · simp [absent, SortedMap.empty, SortedMap.keys]
  · obtain ⟨members, rfl, names⟩ := mem_names_of_map (fun _ _ => Identifier.text_of_parse) read
    simp only [there, Option.some.injEq, Json.object.injEq, exists_eq_left', names]

/-- A text is written where the id of a distribution or the name of a subpath is read. -/
def Writes (document : Json) (text : String) : Prop :=
  field? record.names "id" document = some (.string text) ∨ NamesSubpath record.names document text

/-- An identifier is the id of a distribution or the name of a subpath. -/
def Bears (dist : Distribution) (identifier : Identifier) : Prop :=
  identifier = dist.id ∨ identifier ∈ dist.placeholders.keys

theorem id_part : record.Part 0 (.required "id" (refined Identifier.parse)) id :=
  .before fun _ => .before fun _ => .before fun _ => .last <| .pure fun _ => rfl

theorem placeholders_part : record.Part 3 (.defaulted "placeholders" subpaths .empty) placeholders :=
  .last <| .seq <| .seq <| .seq <| .pure fun _ _ _ _ => rfl

theorem writes_iff {dist : Distribution} (read : decoder format document = .ok dist) (text : String) :
    Writes document text ↔ ∃ identifier, dist.Bears identifier ∧ identifier.text = text := by
  have distinct : record.names.Nodup := by decide
  obtain ⟨-, fields⟩ := Record.decoder_eq_ok_iff.1 read
  obtain ⟨found, there, refined⟩ := Record.exists_field_of_required distinct rfl (id_part.of_read fields)
  obtain ⟨source, rfl, parsed⟩ := refined_eq_ok_iff.1 refined
  rw [Writes, there, ← Identifier.text_of_parse parsed,
    namesSubpath_iff distinct rfl (placeholders_part.of_read fields)]
  simp [Bears, or_and_right, exists_or]

theorem screened : Screened (decoder format) Writes Bears Identifier.parse Identifier.text :=
  .of_exact Identifier.parse_text writes_iff

end Distribution

namespace Env

/-- A text is written where a pattern of names to remove is read. -/
def Writes (document : Json) (text : String) : Prop :=
  ∃ items, field? record.names "remove_re" document = some (.array items) ∧ .string text ∈ items

/-- A pattern is one of those of the names to remove. -/
def Bears (env : Env) (pattern : NamePattern) : Prop := pattern ∈ env.removedPatterns

theorem removedPatterns_part :
    record.Part 3 (.defaulted "remove_re" (set (refined NamePattern.parse)) .empty) removedPatterns :=
  .last <| .seq <| .seq <| .seq <| .pure fun _ _ _ _ => rfl

theorem writes_iff {env : Env} (read : decoder format document = .ok env) (text : String) :
    Writes document text ↔ ∃ pattern, env.Bears pattern ∧ pattern.text = text := by
  have distinct : record.names.Nodup := by decide
  obtain ⟨-, fields⟩ := Record.decoder_eq_ok_iff.1 read
  have patterns := removedPatterns_part.of_read fields
  unfold Writes Bears
  rcases Record.exists_field_of_defaulted distinct rfl patterns with ⟨absent, empty⟩ | ⟨found, there, read⟩
  · simp [absent, empty]
  · obtain ⟨items, rfl, taken, given⟩ := exists_items_of_set read
    simp only [there, Option.some.injEq, Json.array.injEq, exists_eq_left']
    constructor
    · intro listed
      obtain ⟨pattern, member, read⟩ := taken _ listed
      obtain ⟨_, same, parsed⟩ := refined_eq_ok_iff.1 read
      cases same
      exact ⟨pattern, member, NamePattern.text_of_parse parsed⟩
    · rintro ⟨pattern, member, rfl⟩
      obtain ⟨item, listed, read⟩ := given pattern member
      obtain ⟨_, rfl, parsed⟩ := refined_eq_ok_iff.1 read
      rwa [NamePattern.text_of_parse parsed]

theorem screened : Screened (decoder format) Writes Bears NamePattern.parse NamePattern.text :=
  .of_exact NamePattern.parse_text writes_iff

end Env

namespace Command

/-- A text is written where a pattern of names to remove from the environment is read. -/
def Writes (document : Json) (text : String) : Prop :=
  ∃ env, field? record.names "env" document = some env ∧ Env.Writes env text

/-- A pattern is one of those of the names to remove from the environment. -/
def Bears (command : Command) (pattern : NamePattern) : Prop := command.env.Bears pattern

theorem env_part : record.Part 2 (.defaulted "env" Env.decoder .empty) env :=
  .before fun _ => .before fun _ => .last <| .seq <| .seq <| .pure fun _ _ _ => rfl

theorem writes_iff {command : Command} (read : decoder format document = .ok command) (text : String) :
    Writes document text ↔ ∃ pattern, command.Bears pattern ∧ pattern.text = text := by
  have distinct : record.names.Nodup := by decide
  obtain ⟨-, fields⟩ := Record.decoder_eq_ok_iff.1 read
  have env := env_part.of_read fields
  unfold Writes Bears
  rcases Record.exists_field_of_defaulted distinct rfl env with ⟨absent, empty⟩ | ⟨found, there, read⟩
  · simp [absent, empty, Env.Bears, Env.empty]
  · simp only [there, Option.some.injEq, exists_eq_left']
    exact Env.writes_iff read text

theorem screened : Screened (decoder format) Writes Bears NamePattern.parse NamePattern.text :=
  .of_exact NamePattern.parse_text writes_iff

end Command

end AppBundle
