import AppBundle.Proofs.Document.Screening
import AppBundle.Proofs.Provider.Creation
import AppBundle.Proofs.Provider.Defects

/-! # Checked texts in settings

The names of subpaths come into a provider as keys of its settings, shared ones and those of a single
platform. Every distribution that the provider has bears them verbatim and checked, whether it is made with
the provider or filled in later; and no provider is made from settings with a key that does not pass the
check, for whatever platform it stands there.
-/

namespace AppBundle

open Document

variable {identifier : Identifier} {isLazy : Bool} {platform : Platform} {dist : Distribution}
  {document : Json} {text : String}

/-- A record with a field for named subpaths has a defect if one of the names delimits tokens. -/
theorem Distribution.recordDefect_of_namesSubpath {shapes : List FieldShape}
    (declared : .defaulted "placeholders" SubpathsDefect ∈ shapes)
    (named : NamesSubpath (shapes.map FieldShape.name) document text)
    (refused : ¬ Token.Plain text.toList) : RecordDefect shapes document := by
  obtain ⟨members, there, present⟩ := named
  have faulty : (FieldShape.defaulted "placeholders" SubpathsDefect).Faulty (some (.object members)) :=
    MapDefect.key present refused
  rw [← there] at faulty
  exact .field declared faulty

section Table

/-- A text is written as the name of a subpath that is shared or that stands under a platform's name. -/
def StaticSettings.Writes (name : String) (document : Json) (text : String) : Prop :=
  Distribution.NamesSubpath record.names document text ∨
    ∃ table entry, field? record.names "distributions" document = some (.object table) ∧
      (SortedMap.ofList table).get? name = some entry ∧
        Distribution.NamesSubpath StaticEntry.record.names entry text

theorem StaticSettings.defect_of_writes {name : String} (written : Writes name document text)
    (refused : ¬ Token.Plain text.toList) : RecordDefect shapes document := by
  rcases written with shared | ⟨table, entry, there, found, own⟩
  · exact Distribution.recordDefect_of_namesSubpath (by simp [shapes]) shared refused
  · have wrong : RecordDefect StaticEntry.shapes entry :=
      Distribution.recordDefect_of_namesSubpath (by simp [StaticEntry.shapes]) own refused
    have faulty : (FieldShape.required "distributions" (Platform.TableDefect StaticEntry.shapes)).Faulty
        (some (.object table)) := MapDefect.value found wrong
    rw [← there] at faulty
    exact .field (by simp [shapes]) faulty

theorem StaticEntry.placeholders_part :
    record.Part 4 (.defaulted "placeholders" Distribution.subpaths .empty) placeholders :=
  .last <| .seq <| .seq <| .seq <| .seq <| .pure fun _ _ _ _ _ => rfl

/-- The names of subpaths in a table are written in its settings. -/
theorem StaticProvider.writes_of_mem_keys {settings : StaticSettings} {table : StaticProvider}
    (read : StaticSettings.decoder .toml document = .ok settings)
    (filled : ofSettings identifier isLazy settings = .ok table)
    (present : table.distribution? platform = some dist) {key : Identifier}
    (named : key ∈ dist.placeholders.keys) : StaticSettings.Writes platform.name document key.text := by
  obtain ⟨-, fields⟩ := Record.decoder_eq_ok_iff.1 read
  obtain ⟨entry, listed, made⟩ := (distribution?_eq_some_iff filled).1 present
  obtain ⟨_, rfl⟩ := StaticEntry.exists_of_distribution made
  rw [SortedMap.mem_keys_insertMany_iff] at named
  have distinct : StaticSettings.record.names.Nodup := by decide
  rcases named with shared | own
  · exact .inl ((Distribution.namesSubpath_iff distinct rfl
      (StaticSettings.placeholders_part.of_read fields) _).2 ⟨key, shared, rfl⟩)
  · obtain ⟨_, there, entries⟩ :=
      Record.exists_field_of_required distinct rfl (StaticSettings.distributions_part.of_read fields)
    obtain ⟨members, source, rfl, found, stored⟩ :=
      exists_of_map (fun _ _ => Platform.name_of_parse) entries ((SortedMap.get?_eq_some_iff _).1 listed)
    obtain ⟨-, fields⟩ := Record.decoder_eq_ok_iff.1 stored
    have subpaths := StaticEntry.placeholders_part.of_read fields
    refine .inr ⟨members, source, there, found, ?_⟩
    exact (Distribution.namesSubpath_iff (by decide) rfl subpaths _).2 ⟨key, own, rfl⟩

end Table

section Template

/-- The names of subpaths in what a template makes are written in its settings. -/
theorem TemplatedProvider.writes_of_mem_keys {settings : TemplatedSettings} {template : TemplatedProvider}
    (read : TemplatedSettings.decoder .toml document = .ok settings)
    (tried : ofSettings identifier isLazy settings = .ok template)
    (present : template.distribution? platform = some dist) {key : Identifier}
    (named : key ∈ dist.placeholders.keys) :
    Distribution.NamesSubpath TemplatedSettings.record.names document key.text := by
  obtain ⟨-, fields⟩ := Record.decoder_eq_ok_iff.1 read
  have placeholders := TemplatedSettings.placeholders_part.of_read fields
  obtain ⟨-, -, rfl⟩ := ofSettings_eq_ok_iff.1 tried
  obtain ⟨_, _, _, rfl⟩ := TemplatedSettings.exists_of_render (render_of_distribution? present)
  exact (Distribution.namesSubpath_iff (by decide) rfl placeholders _).2 ⟨key, named, rfl⟩

end Template

/-- A text is written in settings of a kind as the name of a subpath, shared or under a platform's name. -/
def ProviderKind.Writes : ProviderKind → String → Json → String → Prop
  | .static, name, settings, text => StaticSettings.Writes name settings text
  | .templated, _, settings, text => Distribution.NamesSubpath TemplatedSettings.record.names settings text

namespace Provider

/-- An identifier is the name of a subpath of a distribution for the platform of the given name. -/
def Bears (name : String) (provider : Provider) (key : Identifier) : Prop :=
  ∃ platform dist, Platform.name platform = name ∧ provider.distribution? platform = some dist ∧
    key ∈ dist.placeholders.keys

theorem writes_of_bears {kind : ProviderKind} {provider : Provider} {name : String} {key : Identifier}
    (made : (create kind identifier isLazy document).result = .ok provider)
    (borne : provider.Bears name key) : kind.Writes name document key.text := by
  obtain ⟨platform, dist, rfl, present, named⟩ := borne
  cases kind with
  | static =>
    obtain ⟨settings, table, read, filled, rfl⟩ := create_static_eq_ok_iff.1 made
    exact StaticProvider.writes_of_mem_keys read filled present named
  | templated =>
    obtain ⟨settings, template, read, tried, rfl⟩ := create_templated_eq_ok_iff.1 made
    exact TemplatedProvider.writes_of_mem_keys read tried present named

theorem screened (kind : ProviderKind) (identifier : Identifier) (isLazy : Bool) (name : String) :
    Screened (fun settings => (create kind identifier isLazy settings).result) (kind.Writes name)
      (Bears name) Identifier.parse Identifier.text where
  verbatim made borne := ⟨writes_of_bears made borne, Identifier.parse_text _⟩
  refused {document source} written bad := by
    -- A name that delimits tokens is a defect of the settings, so they are turned down when they are read.
    have refused : ¬ Token.Plain source.toList := by
      rw [← Identifier.exists_parse_iff]
      exact fun ⟨key, parsed⟩ => bad key parsed
    cases kind with
    | static =>
      obtain ⟨fault, failed⟩ :=
        StaticSettings.judges.exists_error_iff.2 (StaticSettings.defect_of_writes written refused)
      exact ⟨_, create_eq_unreadable_iff.2 ⟨rfl, failed⟩⟩
    | templated =>
      have defect : RecordDefect TemplatedSettings.shapes document :=
        Distribution.recordDefect_of_namesSubpath (by simp [TemplatedSettings.shapes]) written refused
      obtain ⟨fault, failed⟩ := TemplatedSettings.judges.exists_error_iff.2 defect
      exact ⟨_, create_eq_unreadable_iff.2 ⟨rfl, failed⟩⟩

end Provider

/-- No identifier and no name pattern comes into a value unchecked. Identifiers are the texts without
characters that delimit tokens. Those of a distribution, patterns of an environment or of a command, and the
names of subpaths in the distributions of a provider are written in the document that the value is made
from, and nothing is made from a document with a text in such a place that does not pass its check. The
distributions of a provider go by the identifier that is given with the settings. -/
theorem screened_everywhere :
    (∀ text, (∃ identifier, Identifier.parse text = .ok identifier) ↔ Token.Plain text.toList) ∧
      Screened (Distribution.decoder .json) Distribution.Writes Distribution.Bears
        Identifier.parse Identifier.text ∧
      Screened (Env.decoder .json) Env.Writes Env.Bears NamePattern.parse NamePattern.text ∧
      Screened (Command.decoder .json) Command.Writes Command.Bears NamePattern.parse NamePattern.text ∧
      ∀ kind identifier isLazy,
        (∀ name, Screened (fun settings => (Provider.create kind identifier isLazy settings).result)
          (kind.Writes name) (Provider.Bears name) Identifier.parse Identifier.text) ∧
        ∀ settings provider platform dist,
          (Provider.create kind identifier isLazy settings).result = .ok provider →
            provider.distribution? platform = some dist → dist.id = identifier := by
  refine ⟨fun _ => Identifier.exists_parse_iff, Distribution.screened, Env.screened, Command.screened, ?_⟩
  intro kind identifier isLazy
  refine ⟨Provider.screened kind identifier isLazy, fun settings provider platform dist made present => ?_⟩
  have created : provider.Created := ⟨kind, identifier, isLazy, settings, made⟩
  exact (created.carries present).id.trans (Provider.identifier_of_create made)

/-- A table with a shared subpath and one for a single platform. -/
def tableNaming (name : String) : Json :=
  .object [
    ("placeholders", .object [("bin", .string "b")]),
    ("distributions", .object [
      ("linux-x86_64", .object [
        ("url", .string "u/t.zip"), ("placeholders", .object [(name, .string "l")])])])]

/-- The subpath for the platform is borne by its distribution, and with a colon in its name no provider is
made. -/
theorem screened_everywhere_table :
    (∃ provider, (Provider.create .static ⟨"tool", by decide⟩ false (tableNaming "lib")).result =
        .ok provider ∧
      provider.Bears "linux-x86_64" ⟨"lib", by decide⟩ ∧
      ProviderKind.static.Writes "linux-x86_64" (tableNaming "lib") "lib") ∧
    ∃ error, (Provider.create .static ⟨"tool", by decide⟩ false (tableNaming "l:b")).result =
      .error error := by
  obtain ⟨-, -, -, -, providers⟩ := screened_everywhere
  obtain ⟨screened, -⟩ := providers .static ⟨"tool", by decide⟩ false
  let dist : Distribution := {
    id := ⟨"tool", by decide⟩
    file := fetchedFile ⟨"tool", by decide⟩ "t.zip" none none
    url := "u/t.zip"
    placeholders := .ofList [(⟨"bin", by decide⟩, "b"), (⟨"lib", by decide⟩, "l")] }
  have made : (Provider.create .static ⟨"tool", by decide⟩ false (tableNaming "lib")).result =
      .ok (.static ⟨⟨"tool", by decide⟩, false, .ofList [(.linuxX86_64, dist)]⟩) := by decide +kernel
  have borne : (Provider.static ⟨⟨"tool", by decide⟩, false, .ofList [(.linuxX86_64, dist)]⟩).Bears
      "linux-x86_64" ⟨"lib", by decide⟩ := ⟨.linuxX86_64, dist, rfl, rfl, by decide⟩
  have written : ProviderKind.static.Writes "linux-x86_64" (tableNaming "l:b") "l:b" :=
    .inr ⟨_, _, rfl, rfl, _, rfl, List.mem_singleton_self _⟩
  have bad : Identifier.parse "l:b" = .error (.invalidIdentifier "l:b") := by rfl
  refine ⟨⟨_, made, borne, ((screened "linux-x86_64").verbatim made borne).1⟩, ?_⟩
  refine (screened "linux-x86_64").refused written fun key parsed => ?_
  cases bad.symm.trans parsed

end AppBundle
