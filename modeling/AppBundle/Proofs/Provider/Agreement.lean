import AppBundle.Proofs.Document.RoundTrip
import AppBundle.Proofs.Provider.Coverage

/-! # Tables that stand for templates

What a template gives for its platforms can be written down as a table, with one entry for each listed
platform: the location as it is filled in, the file name, the kind of content and the digest. Such a table
can be read and used, and it provides exactly what the template provides, if every location can be used as
it stands. A file name that comes from the location need not be given, since the table finds it as well.

The digests of a table have to be written as numbers of the settings, which are not as large as a digest
can say. They are large enough because the digests of the template were read from settings too.
-/

namespace AppBundle

open Document

section Digests

variable {format : Format} {digest : Digest}

theorem Digest.decoder_toJson_of_fits (fits : Fits format digest.size) :
    decoder format digest.toJson = .ok digest := by
  have fields : record.Reads format _ digest :=
    Record.reads_pure Digest.mk
      |>.field (natural64_of_fits fits)
      |>.field (show Fingerprint.decoder format digest.fingerprint.toJson = _ from rfl)
  exact fields.decoder (by decide) "Digest"

theorem Digest.size_part : record.Part 0 (.required "size" natural64) size :=
  .before fun _ => .last <| .pure fun _ => rfl

theorem Digest.fits_of_decoder {document : Json} (read : decoder format document = .ok digest) :
    Fits format digest.size := by
  obtain ⟨fields, parts⟩ := Record.exists_read_of_decoder read
  obtain ⟨_, -, number⟩ := Record.exists_of_read_required (size_part.of_read parts)
  exact fits_of_natural64 number

theorem TemplatedSettings.digest_part :
    target.Part 1 (.optional "digest" Digest.decoder) TemplatedTarget.digest :=
  .last <| .seq <| .pure fun _ _ => rfl

theorem TemplatedTarget.fits_of_decoder {title : String} {document : Json} {target : TemplatedTarget}
    (read : TemplatedSettings.target.decoder title format document = .ok target)
    (present : digest ∈ target.digest) : Fits format digest.size := by
  obtain ⟨fields, parts⟩ := Record.exists_read_of_decoder read
  have field := TemplatedSettings.digest_part.of_read parts
  rw [Option.mem_def.1 present] at field
  obtain ⟨_, stored⟩ := Record.exists_of_read_optional field
  exact Digest.fits_of_decoder stored

/-- Settings hold no digest of a size that can not be written in settings. -/
theorem TemplatedSettings.fits_of_decoder {document : Json} {settings : TemplatedSettings}
    (read : decoder .toml document = .ok settings) {entry : Platform × TemplatedTarget}
    (listed : entry ∈ settings.platforms.toList) (present : digest ∈ entry.2.digest) :
    Fits .toml digest.size := by
  obtain ⟨fields, parts⟩ := Record.exists_read_of_decoder read
  obtain ⟨_, _, -, targets⟩ := exists_platforms_of_read parts
  obtain ⟨_, _, -, -, stored⟩ :=
    exists_of_map (fun _ _ parsed => Platform.name_of_parse parsed) targets listed
  exact TemplatedTarget.fits_of_decoder stored present

end Digests

section Tables

theorem Platform.compare_name_of_lt (first second : Platform) (below : compare first second = .lt) :
    compare first.name second.name = .lt := by
  revert below
  cases first <;> cases second <;> decide

/-- Named subpaths as settings. -/
def subpathsTable (placeholders : SortedMap Identifier String) : Json :=
  .object (placeholders.toList.map fun entry => (entry.1.text, .string entry.2))

/-- The settings of an entry. What is absent is left out. -/
def StaticEntry.toTable (entry : StaticEntry) : Json :=
  .object (
    [("url", .string entry.url)] ++
    (entry.name.map fun name => ("name", .string name)).toList ++
    (entry.fileType.map fun fileType => ("type", fileType.toJson)).toList ++
    (entry.digest.map fun digest => ("digest", digest.toJson)).toList ++
    if entry.placeholders.isEmpty then [] else [("placeholders", subpathsTable entry.placeholders)])

/-- The settings of a static provider. -/
def StaticSettings.toTable (settings : StaticSettings) : Json :=
  .object [
    ("placeholders", subpathsTable settings.placeholders),
    ("distributions",
      .object (settings.distributions.toList.map fun entry => (entry.1.name, entry.2.toTable)))]

theorem StaticEntry.decoder_toTable {entry : StaticEntry}
    (fits : ∀ digest ∈ entry.digest, Fits .toml digest.size) :
    record.decoder "StaticEntry" .toml entry.toTable = .ok entry := by
  obtain ⟨url, name, fileType, digest, placeholders⟩ := entry
  have fileTypes : Undoes .toml FileType.decoder FileType.toJson :=
    undoes_enumeration FileType.ofExtension?_extension
  have before : (StaticEntry.mk <$> Record.required "url" string <*> Record.optional "name" string <*>
      Record.optional "type" FileType.decoder <*> Record.optional "digest" Digest.decoder).Reads .toml _
        (StaticEntry.mk url name fileType digest) :=
    Record.reads_pure StaticEntry.mk
      |>.field (undoes_string url)
      |>.optional .string (fun _ => nofun) (fun name _ => undoes_string name)
      |>.optional FileType.toJson (fun _ => nofun) (fun fileType _ => fileTypes fileType)
      |>.optional Digest.toJson (fun _ => nofun)
        (fun digest present => Digest.decoder_toJson_of_fits (fits digest present))
  rw [toTable]
  split
  · next none =>
    obtain rfl : placeholders = .empty := SortedMap.ext_toList (List.isEmpty_iff.1 none)
    rw [List.append_nil]
    exact (before.omitted fun _ _ => rfl).decoder (by decide) "StaticEntry"
  · exact (before.field (Distribution.subpaths_undoes placeholders)).decoder (by decide) "StaticEntry"

theorem StaticSettings.decoder_toTable {settings : StaticSettings}
    (fits : ∀ entry ∈ settings.distributions.toList,
      ∀ digest ∈ entry.2.digest, Fits .toml digest.size) :
    decoder .toml settings.toTable = .ok settings := by
  have entries := map_eq_ok Platform.name Platform.parse_name Platform.compare_name_of_lt
    fun entry listed => StaticEntry.decoder_toTable (fits entry listed)
  have fields : record.Reads .toml _ settings :=
    Record.reads_pure StaticSettings.mk
      |>.field (Distribution.subpaths_undoes settings.placeholders)
      |>.field entries
  exact fields.decoder (by decide) "StaticConfig"

end Tables

namespace TemplatedSettings

variable {settings : TemplatedSettings} {named : Platform → Bool} {platform : Platform}
  {target : TemplatedTarget}

/-- The entry that stands for a listed platform. Its file name is given for the platforms that `named`
tells, and otherwise left out. -/
def entry (settings : TemplatedSettings) (named : Platform → Bool) (platform : Platform)
    (target : TemplatedTarget) : StaticEntry where
  url := settings.location platform target
  name := if named platform then settings.fileName? platform target else none
  fileType := settings.fileType
  digest := target.digest
  placeholders := .empty

/-- The table that stands for a template. -/
def asTable (settings : TemplatedSettings) (named : Platform → Bool) : StaticSettings where
  placeholders := settings.placeholders
  distributions := settings.platforms.mapEntries (settings.entry named)

/-- Every location can be used as it stands: it is not empty, and has no blanks around it. -/
def Clean (settings : TemplatedSettings) : Prop :=
  ∀ platform target, settings.platforms.get? platform = some target →
    settings.location platform target ≠ "" ∧
      Text.trim (settings.location platform target) = settings.location platform target

/-- Without a given file name the one in the location is used, which is found again if it is left out. -/
theorem fileName?_eq_of_absent (absent : settings.fileName = none) :
    settings.fileName? platform target = Url.fileName? (settings.location platform target) := by
  rw [fileName?, absent, Option.map_none, Option.none_or]

/-- The file name of an entry is that of the template, whether it is given or left out. -/
theorem name_entry (given : settings.fileName ≠ none → named platform = true) :
    (settings.entry named platform target).name.or (Url.fileName? (settings.location platform target)) =
      settings.fileName? platform target := by
  rw [entry]
  split
  · rw [fileName?, Option.or_assoc, Option.or_self]
  · next left =>
    have absent : settings.fileName = none := by
      by_contra present
      exact left (given present)
    rw [fileName?_eq_of_absent absent, Option.none_or]

/-- An entry gives the distribution that is rendered for its platform. -/
theorem distribution_entry {identifier : Identifier} {found : Option Distribution}
    (clean : settings.Clean) (given : settings.fileName ≠ none → named platform = true)
    (present : settings.platforms.get? platform = some target)
    (rendered : settings.render identifier platform = .ok found) :
    ∃ dist, found = some dist ∧
      (settings.entry named platform target).distribution identifier settings.placeholders platform =
        .ok dist := by
  obtain ⟨filled, plain⟩ := clean platform target present
  rw [render_of_present present] at rendered
  cases chosen : settings.fileName? platform target with
  | none =>
    rw [chosen] at rendered
    cases rendered
  | some name =>
    rw [chosen] at rendered
    obtain rfl := Except.ok.inj rendered
    have url : Text.trim (settings.entry named platform target).url =
        settings.location platform target := plain
    refine ⟨_, rfl, ?_⟩
    simp only [StaticEntry.distribution, url, String.isEmpty_iff, filled, if_false, name_entry given,
      chosen]
    rfl

theorem get?_asTable {platform : Platform} {entry : StaticEntry} :
    (settings.asTable named).distributions.get? platform = some entry ↔
      ∃ target, settings.platforms.get? platform = some target ∧
        settings.entry named platform target = entry :=
  SortedMap.get?_mapEntries_eq_some_iff

/-- The table of settings can be read, since its digests were read from settings. -/
theorem decoder_asTable {document : Json} (read : decoder .toml document = .ok settings) :
    StaticSettings.decoder .toml (settings.trimmed.asTable named).toTable =
      .ok (settings.trimmed.asTable named) := by
  refine StaticSettings.decoder_toTable fun entry member digest present => ?_
  rw [asTable, SortedMap.toList_mapEntries, List.mem_map] at member
  obtain ⟨listed, stored, rfl⟩ := member
  exact fits_of_decoder read stored present

end TemplatedSettings

variable {identifier : Identifier} {isLazy : Bool} {document : Json} {named : Platform → Bool}
  {template : TemplatedProvider} {table : StaticProvider}

theorem TemplatedProvider.distribution?_eq_of_render {platform : Platform} {found : Option Distribution}
    (rendered : template.settings.render template.identifier platform = .ok found) :
    template.distribution? platform = found := by
  rw [distribution?, rendered]

theorem TemplatedProvider.distribution?_of_absent {platform : Platform}
    (absent : template.settings.platforms.get? platform = none) : template.distribution? platform = none :=
  distribution?_eq_of_render (TemplatedSettings.render_of_absent absent)

/-- The entry for a listed platform gives the distribution that a template makes. -/
theorem TemplatedProvider.exists_distribution_entry {settings : TemplatedSettings}
    (tried : ofSettings identifier isLazy settings = .ok template) (clean : template.settings.Clean)
    (given : template.settings.fileName ≠ none → ∀ platform, named platform = true)
    {platform : Platform} {target : TemplatedTarget}
    (present : template.settings.platforms.get? platform = some target) :
    ∃ dist, template.distribution? platform = some dist ∧
      (template.settings.entry named platform target).distribution identifier
        template.settings.placeholders platform = .ok dist := by
  obtain ⟨-, renders, rfl⟩ := ofSettings_eq_ok_iff.1 tried
  obtain ⟨found, rendered⟩ := renders platform (SortedMap.mem_keys_iff.2 ⟨target, present⟩)
  obtain ⟨dist, rfl, made⟩ :=
    TemplatedSettings.distribution_entry clean (fun filled => given filled platform) present rendered
  exact ⟨dist, distribution?_eq_of_render rendered, made⟩

/-- A table that is filled from the entries of a template gives what the template makes. -/
theorem StaticProvider.distribution?_asTable {settings : TemplatedSettings}
    (tried : TemplatedProvider.ofSettings identifier isLazy settings = .ok template)
    (clean : template.settings.Clean)
    (given : template.settings.fileName ≠ none → ∀ platform, named platform = true)
    (filled : ofSettings identifier isLazy (template.settings.asTable named) = .ok table)
    (platform : Platform) : table.distribution? platform = template.distribution? platform := by
  cases present : template.settings.platforms.get? platform with
  | none =>
    rw [TemplatedProvider.distribution?_of_absent present, Option.eq_none_iff_forall_ne_some]
    intro dist found
    obtain ⟨_, listed, -⟩ := (distribution?_eq_some_iff filled).1 found
    obtain ⟨target, contained, -⟩ := TemplatedSettings.get?_asTable.1 listed
    cases present.symm.trans contained
  | some target =>
    obtain ⟨dist, found, made⟩ := TemplatedProvider.exists_distribution_entry tried clean given present
    rw [found, distribution?_eq_some_iff filled]
    exact ⟨_, TemplatedSettings.get?_asTable.2 ⟨target, present, rfl⟩, made⟩

/-- The entries of a template can be used for a table. -/
theorem StaticProvider.exists_ofSettings_asTable {settings : TemplatedSettings}
    (tried : TemplatedProvider.ofSettings identifier isLazy settings = .ok template)
    (clean : template.settings.Clean)
    (given : template.settings.fileName ≠ none → ∀ platform, named platform = true) :
    ∃ distributions, ofSettings identifier isLazy (template.settings.asTable named) =
      .ok ⟨identifier, isLazy, distributions⟩ := by
  have usable : ∀ entry ∈ (template.settings.asTable named).distributions.toList, ∃ dist,
      entry.2.distribution identifier template.settings.placeholders entry.1 = .ok dist := by
    rintro ⟨platform, entry⟩ member
    obtain ⟨target, present, rfl⟩ :=
      TemplatedSettings.get?_asTable.1 ((SortedMap.get?_eq_some_iff _).2 member)
    obtain ⟨dist, -, made⟩ := TemplatedProvider.exists_distribution_entry tried clean given present
    exact ⟨dist, made⟩
  obtain ⟨distributions, filled⟩ := SortedMap.exists_mapM_eq_ok usable
  exact ⟨distributions, ofSettings_eq_ok_iff.2 ⟨distributions, filled, rfl⟩⟩

namespace Provider

/-- The table that stands for a template is accepted as settings of a static provider, which then has the
same distribution as the template for every platform, lists the same platforms and is as lazy. File names
can be left out of the table if none is given to the template. -/
theorem create_asTable
    (made : (create .templated identifier isLazy document).result = .ok (.templated template))
    (clean : template.settings.Clean)
    (given : template.settings.fileName ≠ none → ∀ platform, named platform = true) :
    ∃ provider, (create .static identifier isLazy (template.settings.asTable named).toTable).result =
        .ok provider ∧
      (∀ platform, provider.distribution? platform = (templated template).distribution? platform) ∧
      provider.supportedPlatforms = (templated template).supportedPlatforms ∧
      provider.isLazy = (templated template).isLazy := by
  obtain ⟨settings, _, read, tried, same⟩ := create_templated_eq_ok_iff.1 made
  cases same
  obtain ⟨distributions, filled⟩ := StaticProvider.exists_ofSettings_asTable tried clean given
  have agree := StaticProvider.distribution?_asTable tried clean given filled
  obtain ⟨-, -, rfl⟩ := TemplatedProvider.ofSettings_eq_ok_iff.1 tried
  obtain ⟨_, entries, same⟩ := StaticProvider.ofSettings_eq_ok_iff.1 filled
  cases same
  refine ⟨_, create_static_eq_ok_iff.2 ⟨_, _, TemplatedSettings.decoder_asTable read, filled, rfl⟩,
    agree, ?_, rfl⟩
  exact (SortedMap.keys_of_mapM_eq_ok entries).trans (SortedMap.keys_mapEntries ..)

/-- The locations of the provider can be used as they stand, and its table needs no file names. -/
theorem create_asTable_toolProvider :
    toolProvider.settings.Clean ∧
      ∃ provider, (create .static toolProvider.identifier false
          (toolProvider.settings.asTable fun _ => false).toTable).result = .ok provider ∧
        (∀ platform, provider.distribution? platform =
          (templated toolProvider).distribution? platform) ∧
        provider.supportedPlatforms = [.linuxX86_64, .windowsX86_64] ∧
        provider.isLazy = false := by
  have clean : toolProvider.settings.Clean := by
    intro platform target present
    have listed : (platform, target) ∈ toolProvider.settings.platforms.toList :=
      (SortedMap.get?_eq_some_iff _).1 present
    change _ ∈ [(Platform.linuxX86_64, _), (.windowsX86_64, _)] at listed
    simp only [List.mem_cons, List.not_mem_nil, or_false, Prod.mk.injEq] at listed
    rcases listed with ⟨rfl, rfl⟩ | ⟨rfl, rfl⟩
    · decide +kernel
    · decide +kernel
  have unnamed : toolProvider.settings.fileName = none := rfl
  exact ⟨clean, create_asTable create_toolProvider clean fun given => absurd unnamed given⟩

end Provider

end AppBundle
