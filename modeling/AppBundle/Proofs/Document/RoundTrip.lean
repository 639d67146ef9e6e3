import AppBundle.Command
import AppBundle.Distribution
import AppBundle.Platform
import AppBundle.Proofs.Document.Record
import AppBundle.Proofs.Json.Text

/-! # Reading back the documents of model values

Every model value is read back from its document, and from the text of the document. Since one value has
one document, values can be compared by these texts, whatever documents they were read from: a document
may leave out defaults, write absent values as null, repeat or mix the elements of a set, order its
members freely or list the values of its fields.
-/

namespace AppBundle

open Document

theorem Fingerprint.decoder_undoes_toJson : Undoes .json decoder toJson := fun _ => rfl

theorem Digest.decoder_undoes_toJson : Undoes .json decoder toJson := by
  rintro ⟨size, fingerprint⟩
  have fields : record.Reads .json _ (Digest.mk size fingerprint) :=
    Record.reads_pure Digest.mk
      |>.field (undoes_natural64 size)
      |>.field (Fingerprint.decoder_undoes_toJson fingerprint)
  exact fields.decoder (by decide) "Digest"

theorem FileType.decoder_undoes_toJson : Undoes .json decoder toJson :=
  undoes_enumeration ofExtension?_extension

theorem Source.decoder_undoes_toJson : Undoes .json decoder toJson := by
  intro source
  cases source with
  | binding name => rfl
  | fetch => rfl

theorem Source.toJson_ne_null (source : Source) : source.toJson ≠ .null := by
  cases source with
  | binding name => exact nofun
  | fetch => exact nofun

theorem File.decoder_undoes_toJson : Undoes .json decoder toJson := by
  rintro ⟨name, key, digest, fileType, isExecutable, eagerExtract, source⟩
  have keys : Undoes .json _ (Json.ofOption _) := undoes_string.nullable fun _ => nofun
  have digests := Digest.decoder_undoes_toJson.nullable fun _ => nofun
  have fileTypes := FileType.decoder_undoes_toJson.nullable fun _ => nofun
  have sources := Source.decoder_undoes_toJson.nullable Source.toJson_ne_null
  have fields : record.Reads .json _
      (File.mk name key digest fileType isExecutable eagerExtract source) :=
    Record.reads_pure File.mk
      |>.field (undoes_string name)
      |>.field (keys key)
      |>.field (digests digest)
      |>.field (fileTypes fileType)
      |>.field (undoes_bool isExecutable)
      |>.field (undoes_bool eagerExtract)
      |>.field (sources source)
  exact fields.decoder (by decide) "File"

theorem NamePattern.parse_undoes_text :
    Undoes .json (refined parse) fun pattern => .string pattern.text :=
  undoes_refined parse_text

theorem Env.values_undoes_valuesToJson : Undoes .json values valuesToJson :=
  undoes_string.map (fun name => name) (fun _ => rfl) fun _ _ below => below

theorem Env.decoder_undoes_toJson : Undoes .json decoder toJson := by
  rintro ⟨defaults, replacements, removedNames, removedPatterns⟩
  have fields : record.Reads .json _ (Env.mk defaults replacements removedNames removedPatterns) :=
    Record.reads_pure Env.mk
      |>.field (values_undoes_valuesToJson defaults)
      |>.field (values_undoes_valuesToJson replacements)
      |>.field (undoes_string.set removedNames)
      |>.field (NamePattern.parse_undoes_text.set removedPatterns)
  exact fields.decoder (by decide) "Env"

theorem Command.decoder_undoes_toJson : Undoes .json decoder toJson := by
  rintro ⟨exe, args, env, name, description⟩
  have texts : Undoes .json _ (Json.ofOption _) := undoes_string.nullable fun _ => nofun
  have fields : record.Reads .json _ (Command.mk exe args env name description) :=
    Record.reads_pure Command.mk
      |>.field (undoes_string exe)
      |>.field (undoes_string.list args)
      |>.field (Env.decoder_undoes_toJson env)
      |>.field (texts name)
      |>.field (texts description)
  exact fields.decoder (by decide) "Command"

theorem Platform.parse_undoes_name :
    Undoes .json (refined parse) fun platform => .string platform.name :=
  undoes_refined parse_name

theorem Identifier.parse_undoes_text :
    Undoes .json (refined parse) fun identifier => .string identifier.text :=
  undoes_refined parse_text

/-- Identifiers are ordered by their texts, so subpaths are written in the order of their names. -/
theorem Distribution.subpaths_undoes {format : Format} : Undoes format subpaths fun placeholders =>
    .object (placeholders.toList.map fun (key, subpath) => (key.text, .string subpath)) :=
  undoes_string.map Identifier.text Identifier.parse_text fun _ _ below => below

theorem Distribution.decoder_undoes_toJson : Undoes .json decoder toJson := by
  rintro ⟨id, file, url, placeholders⟩
  have fields : record.Reads .json _ (Distribution.mk id file url placeholders) :=
    Record.reads_pure Distribution.mk
      |>.field (Identifier.parse_undoes_text id)
      |>.field (File.decoder_undoes_toJson file)
      |>.field (undoes_string url)
      |>.field (subpaths_undoes placeholders)
  exact fields.decoder (by decide) "Distribution"

/-- The types of model values that are kept as documents. -/
inductive DocumentType where
  | digest
  | fingerprint
  | fileType
  | platform
  | identifier
  | namePattern
  | source
  | file
  | env
  | command
  | distribution
deriving DecidableEq, Repr

namespace DocumentType

/-- The values of a type. -/
def Value : DocumentType → Type
  | digest => Digest
  | fingerprint => Fingerprint
  | fileType => FileType
  | platform => Platform
  | identifier => Identifier
  | namePattern => NamePattern
  | source => Source
  | file => File
  | env => Env
  | command => Command
  | distribution => Distribution

/-- The document of a value. Platforms, identifiers and patterns are texts. -/
def encode : (type : DocumentType) → type.Value → Json
  | digest => Digest.toJson
  | fingerprint => Fingerprint.toJson
  | fileType => FileType.toJson
  | platform => fun platform => .string platform.name
  | identifier => fun identifier => .string identifier.text
  | namePattern => fun pattern => .string pattern.text
  | source => Source.toJson
  | file => File.toJson
  | env => Env.toJson
  | command => Command.toJson
  | distribution => Distribution.toJson

/-- Read a value from its document. -/
def decoder : (type : DocumentType) → Decoder type.Value
  | digest => Digest.decoder
  | fingerprint => Fingerprint.decoder
  | fileType => FileType.decoder
  | platform => refined Platform.parse
  | identifier => refined Identifier.parse
  | namePattern => refined NamePattern.parse
  | source => Source.decoder
  | file => File.decoder
  | env => Env.decoder
  | command => Command.decoder
  | distribution => Distribution.decoder

/-- The text of the document of a value. -/
def write (type : DocumentType) (value : type.Value) : String := (type.encode value).render

/-- Read a value from the text of a document. -/
def read? (type : DocumentType) (text : String) : Option type.Value :=
  (Json.parse? text).bind fun document => (type.decoder .json document).toOption

theorem decoder_undoes_encode (type : DocumentType) : Undoes .json type.decoder type.encode := by
  cases type with
  | digest => exact Digest.decoder_undoes_toJson
  | fingerprint => exact Fingerprint.decoder_undoes_toJson
  | fileType => exact FileType.decoder_undoes_toJson
  | platform => exact Platform.parse_undoes_name
  | identifier => exact Identifier.parse_undoes_text
  | namePattern => exact NamePattern.parse_undoes_text
  | source => exact Source.decoder_undoes_toJson
  | file => exact File.decoder_undoes_toJson
  | env => exact Env.decoder_undoes_toJson
  | command => exact Command.decoder_undoes_toJson
  | distribution => exact Distribution.decoder_undoes_toJson

theorem read?_write (type : DocumentType) (value : type.Value) :
    type.read? (type.write value) = some value := by
  rw [read?, write, Json.parse?_render, Option.bind_some, type.decoder_undoes_encode]
  rfl

/-- No two values have the same text. -/
theorem write_injective (type : DocumentType) : Function.Injective type.write :=
  Json.render_injective.comp type.decoder_undoes_encode.injective

/-- Every value is read back from its document and from the text of that. So is a value that was read from
any document at all, and values read from two documents are equal exactly if the same text is written for
both. -/
theorem read_back (type : DocumentType) :
    (∀ value, type.decoder .json (type.encode value) = .ok value ∧
      type.read? (type.write value) = some value) ∧
    (∀ document value, type.decoder .json document = .ok value →
      type.decoder .json (type.encode value) = .ok value ∧
        type.read? (type.write value) = some value) ∧
    ∀ first second value other, type.decoder .json first = .ok value →
      type.decoder .json second = .ok other → (value = other ↔ type.write value = type.write other) := by
  have back (value : type.Value) : type.decoder .json (type.encode value) = .ok value ∧
      type.read? (type.write value) = some value :=
    ⟨type.decoder_undoes_encode value, type.read?_write value⟩
  refine ⟨back, ?_, ?_⟩
  · intro _ value _
    exact back value
  · intro _ _ value other _ _
    exact type.write_injective.eq_iff.symm

/-- A command by its members, some of them null, with a name to remove that is given twice. -/
def commandByNames : Json :=
  .object [
    ("name", .null),
    ("env", .object [("remove_exact", .array [.string "B", .string "A", .string "B"])]),
    ("exe", .string "run")]

/-- The same command as the list of its fields, without the last ones. -/
def commandByPosition : Json :=
  .array [
    .string "run",
    .array [],
    .object [("replace", .object []), ("remove_exact", .array [.string "A", .string "B"])]]

/-- Both documents give the same command, for which one text is written, and it is read back. -/
theorem read_back_command : ∃ value other : Command,
    Command.decoder .json commandByNames = .ok value ∧
      Command.decoder .json commandByPosition = .ok other ∧
      Command.decoder .json value.toJson = .ok value ∧ command.write value = command.write other := by
  let value : Command := ⟨"run", [], { Env.empty with removedNames := .ofList ["B", "A", "B"] }, none, none⟩
  let other : Command := ⟨"run", [], { Env.empty with removedNames := .ofList ["A", "B"] }, none, none⟩
  have byNames : Command.decoder .json commandByNames = .ok value := by rfl
  have byPosition : Command.decoder .json commandByPosition = .ok other := by rfl
  have same : value = other := by rfl
  obtain ⟨-, again, texts⟩ := read_back command
  exact ⟨value, other, byNames, byPosition, (again commandByNames value byNames).1,
    (texts commandByNames commandByPosition value other byNames byPosition).1 same⟩

end DocumentType

end AppBundle
