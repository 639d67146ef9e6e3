import AppBundle.Proofs.Distribution.Reference
import AppBundle.Proofs.Document.Shape
import AppBundle.Proofs.Provider.Identity

/-! # Settings with a defect

Settings of either kind are unreadable exactly if they have a defect: somewhere in them a key is not
declared, missing or no name of what it stands for, or a value is not of the declared kind. Only settings
without a defect are judged by what they mean, so that an empty location, a location without a file name or
a template without a version is never reported in the place of a defect.
-/

namespace AppBundle

open Document

theorem Fingerprint.judges : Judges .toml decoder NoText := by
  intro document
  have texts : (∃ text, string .toml document = .ok text) ↔ ¬ NoText document := judges_string document
  rw [← texts]
  simp [decoder, Except.map_eq_ok_iff]

namespace Digest

/-- The declared fields of a digest. -/
def shapes : List FieldShape :=
  [.required "size" (NoNatural .toml), .required "fingerprint" NoText]

theorem judges : Judges .toml decoder (RecordDefect shapes) :=
  have declares : Declares .toml record shapes :=
    declares_pure Digest.mk
      |>.required judges_natural64
      |>.required Fingerprint.judges
  declares.judges (by decide) "Digest"

end Digest

theorem FileType.exists_ofExtension?_iff {name : String} :
    (∃ kind, ofExtension? name = some kind) ↔ name ∈ all.map extension := by
  simp [ofExtension?, ← Option.isSome_iff_exists, List.find?_isSome]

theorem FileType.judges : Judges .toml decoder (NoVariant (all.map extension)) :=
  judges_enumeration fun _ => exists_ofExtension?_iff

/-- Something is wrong with named subpaths: a name delimits tokens, or a subpath is no text. -/
def Distribution.SubpathsDefect : Json → Prop := MapDefect (fun name => Token.Plain name.toList) NoText

theorem Distribution.judges_subpaths : Judges .toml subpaths SubpathsDefect :=
  judges_string.map fun _ => Identifier.exists_parse_iff

/-- Something is wrong with what is listed for platforms: a key is no name of a platform, or what stands
under it is no record of these fields. -/
def Platform.TableDefect (shapes : List FieldShape) : Json → Prop :=
  MapDefect (fun key => ∃ platform, Platform.name platform = key) (RecordDefect shapes)

theorem Platform.exists_parse_iff {key : String} :
    (∃ platform, parse key = .ok platform) ↔ ∃ platform, Platform.name platform = key := by
  constructor
  · rintro ⟨platform, parsed⟩
    exact ⟨platform, name_of_parse parsed⟩
  · rintro ⟨platform, rfl⟩
    exact ⟨platform, parse_name platform⟩

namespace StaticEntry

/-- The declared fields of an entry. -/
def shapes : List FieldShape := [
  .required "url" NoText,
  .optional "name" NoText,
  .optional "type" (NoVariant (FileType.all.map FileType.extension)),
  .optional "digest" (RecordDefect Digest.shapes),
  .defaulted "placeholders" Distribution.SubpathsDefect]

theorem judges : Judges .toml (record.decoder "StaticEntry") (RecordDefect shapes) :=
  have declares : Declares .toml record shapes :=
    declares_pure StaticEntry.mk
      |>.required judges_string
      |>.optional judges_string
      |>.optional FileType.judges
      |>.optional Digest.judges
      |>.defaulted Distribution.judges_subpaths
  declares.judges (by decide) "StaticEntry"

end StaticEntry

namespace StaticSettings

/-- The declared fields of the settings of a static provider. -/
def shapes : List FieldShape := [
  .defaulted "placeholders" Distribution.SubpathsDefect,
  .required "distributions" (Platform.TableDefect StaticEntry.shapes)]

theorem judges : Judges .toml decoder (RecordDefect shapes) :=
  have declares : Declares .toml record shapes :=
    declares_pure StaticSettings.mk
      |>.defaulted Distribution.judges_subpaths
      |>.required (StaticEntry.judges.map fun _ => Platform.exists_parse_iff)
  declares.judges (by decide) "StaticConfig"

end StaticSettings

namespace TemplatedSettings

/-- The declared fields of what is said about a platform. -/
def targetShapes : List FieldShape := [
  .optional "name" NoText,
  .optional "digest" (RecordDefect Digest.shapes)]

theorem judges_target : Judges .toml (target.decoder "TemplatedTarget") (RecordDefect targetShapes) :=
  have declares : Declares .toml target targetShapes :=
    declares_pure TemplatedTarget.mk
      |>.optional judges_string
      |>.optional Digest.judges
  declares.judges (by decide) "TemplatedTarget"

/-- The declared fields of the settings of a templated provider. -/
def shapes : List FieldShape := [
  .required "url" NoText,
  .optional "version" NoText,
  .optional "file_name" NoText,
  .optional "type" (NoVariant (FileType.all.map FileType.extension)),
  .defaulted "placeholders" Distribution.SubpathsDefect,
  .required "platforms" (Platform.TableDefect targetShapes)]

theorem judges : Judges .toml decoder (RecordDefect shapes) :=
  have declares : Declares .toml record shapes :=
    declares_pure TemplatedSettings.mk
      |>.required judges_string
      |>.optional judges_string
      |>.optional judges_string
      |>.optional FileType.judges
      |>.defaulted Distribution.judges_subpaths
      |>.required (judges_target.map fun _ => Platform.exists_parse_iff)
  declares.judges (by decide) "TemplatedConfig"

end TemplatedSettings

/-- Settings have a defect against the fields that are declared for a kind of provider. -/
def ProviderKind.Defect : ProviderKind → Json → Prop
  | .static => RecordDefect StaticSettings.shapes
  | .templated => RecordDefect TemplatedSettings.shapes

namespace Provider

variable {identifier other : Identifier} {isLazy : Bool} {settings : Json} {fault : Fault}

/-- Settings are reported as unreadable with the fault of reading them, under the given identifier. -/
theorem ofDocument_eq_unreadable_iff {Settings Result : Type} {decoder : Decoder Settings}
    {ofSettings : Settings → Except SettingsFlaw Result} :
    ofDocument identifier decoder ofSettings settings = .error (.unreadable other fault) ↔
      other = identifier ∧ decoder .toml settings = .error fault := by
  simp only [ofDocument, Except.bind_eq_error_iff, Except.mapError_eq_error_iff]
  grind

theorem create_eq_unreadable_iff {kind : ProviderKind} :
    (create kind identifier isLazy settings).result = .error (.unreadable other fault) ↔
      other = identifier ∧ match kind with
        | .static => StaticSettings.decoder .toml settings = .error fault
        | .templated => TemplatedSettings.decoder .toml settings = .error fault := by
  rw [result_create]
  cases kind with
  | static => exact Except.map_eq_error_iff.trans ofDocument_eq_unreadable_iff
  | templated => exact Except.map_eq_error_iff.trans ofDocument_eq_unreadable_iff

/-- A provider is refused for unreadable settings exactly if they have a defect, whatever else they say, and
the refusal names the provider. -/
theorem create_unreadable_iff (kind : ProviderKind) (identifier : Identifier) (isLazy : Bool)
    (settings : Json) (other : Identifier) :
    (∃ fault, (create kind identifier isLazy settings).result = .error (.unreadable other fault)) ↔
      other = identifier ∧ kind.Defect settings := by
  simp only [create_eq_unreadable_iff, exists_and_left]
  refine and_congr_right fun _ => ?_
  cases kind with
  | static => exact StaticSettings.judges.exists_error_iff
  | templated => exact TemplatedSettings.judges.exists_error_iff

/-- A key that digests do not have is reported, and not that the location is empty. -/
example : (create .static ⟨"tool", by decide⟩ false (.object [
      ("distributions", .object [
        ("linux-x86_64", .object [
          ("url", .string ""),
          ("digest", .object [
            ("size", .ofNat 1), ("fingerprint", .string "ab"), ("algo", .string "sha256")])])])])).result =
    .error (.unreadable ⟨"tool", by decide⟩ ⟨.unknownField "algo" ["size", "fingerprint"],
      ["distributions", "linux-x86_64", "digest"]⟩) := by
  rfl

end Provider

end AppBundle
