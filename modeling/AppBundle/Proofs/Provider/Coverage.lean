import AppBundle.Proofs.Document.Record
import AppBundle.Proofs.Provider.Creation

/-! # The platforms of a provider

A provider that was made from settings has a distribution for exactly those platforms that the settings
list, and it lists the same platforms itself, in their order. For a table that is so because the table is
filled when the provider is made. For a template it is so because every listed platform is tried then: a
distribution that can not be made later on is one that could not be made at first.
-/

namespace AppBundle

open Document

theorem SortedMap.keys_ascending {κ ν : Type} [Ord κ] (map : SortedMap κ ν) :
    map.keys.Pairwise fun a b => compare a b = .lt :=
  List.pairwise_map.2 map.ascending

namespace Platform

theorem all_ascending : all.Pairwise fun a b => compare a b = .lt := by decide

/-- Platforms in ascending order are listed in the order of all platforms. -/
theorem eq_filter_all {platforms : List Platform}
    (ascending : platforms.Pairwise fun a b => compare a b = .lt) {present : Platform → Bool}
    (listed : ∀ platform, platform ∈ platforms ↔ present platform = true) :
    platforms = all.filter present := by
  have distinct {list : List Platform} (ascending : list.Pairwise fun a b => compare a b = .lt) :
      list.Nodup := by
    refine ascending.imp fun {a b} below same => ?_
    subst same
    exact Std.OrientedCmp.not_lt_of_lt below below
  have members : platforms.Perm (all.filter present) := by
    refine (List.perm_ext_iff_of_nodup (distinct ascending) ((distinct all_ascending).filter _)).2 ?_
    intro platform
    rw [List.mem_filter, listed]
    exact (and_iff_right (mem_all platform)).symm
  refine members.eq_of_pairwise ?_ ascending (all_ascending.filter _)
  intro a b _ _ below above
  exact absurd above (Std.OrientedCmp.not_lt_of_lt below)

theorem name_injective : Function.Injective name := by
  intro first second same
  have parsed := parse_name first
  rw [same, parse_name second] at parsed
  exact (Except.ok.inj parsed).symm

/-- The platforms of a map are the names of the members that it is read from. -/
theorem mem_keys_of_map {ν : Type} {decoder : Decoder ν} {format : Format} {document : Json}
    {values : SortedMap Platform ν} (read : map parse decoder format document = .ok values) :
    ∃ members, document = .object members ∧
      ∀ platform, platform ∈ values.keys ↔ platform.name ∈ members.map Prod.fst :=
  Document.mem_keys_of_map name_injective (fun _ _ parsed => name_of_parse parsed) read

end Platform

variable {identifier : Identifier} {isLazy : Bool}

section Table

variable {settings : StaticSettings} {provider : StaticProvider}

/-- A table is filled for the platforms that the settings list. -/
theorem StaticProvider.supportedPlatforms_of_ofSettings
    (made : ofSettings identifier isLazy settings = .ok provider) :
    provider.supportedPlatforms = settings.distributions.keys := by
  obtain ⟨distributions, filled, rfl⟩ := ofSettings_eq_ok_iff.1 made
  exact SortedMap.keys_of_mapM_eq_ok filled

theorem StaticProvider.mem_supportedPlatforms_iff {platform : Platform} :
    platform ∈ provider.supportedPlatforms ↔ (provider.distribution? platform).isSome = true := by
  rw [supportedPlatforms, SortedMap.mem_keys_iff, Option.isSome_iff_exists]
  rfl

/-- The platforms that settings list are the names in their table. -/
theorem StaticSettings.exists_table_of_decoder {members : List (String × Json)}
    (read : decoder .toml (.object members) = .ok settings) :
    ∃ table, (SortedMap.ofList members).get? "distributions" = some (.object table) ∧
      ∀ platform, platform ∈ settings.distributions.keys ↔ platform.name ∈ table.map Prod.fst := by
  obtain ⟨_, document, found, entries⟩ :=
    exists_distributions_of_read (Record.read_of_decoder_object read)
  obtain ⟨table, rfl, listed⟩ := Platform.mem_keys_of_map entries
  exact ⟨table, found, listed⟩

end Table

section Template

variable {settings : TemplatedSettings} {provider : TemplatedProvider}

theorem TemplatedSettings.isSome_of_render {platform : Platform} {found : Option Distribution}
    (made : settings.render identifier platform = .ok found) :
    found.isSome = true ↔ platform ∈ settings.platforms.keys := by
  rw [SortedMap.mem_keys_iff]
  cases present : settings.platforms.get? platform with
  | none =>
    obtain rfl := Except.ok.inj ((render_of_absent present).symm.trans made)
    simp
  | some target =>
    rw [render_of_present present] at made
    split at made
    · cases made
    · cases made
      simp

/-- A distribution is made for exactly those platforms that a provider lists. -/
theorem TemplatedProvider.mem_supportedPlatforms_iff
    (made : ofSettings identifier isLazy settings = .ok provider) {platform : Platform} :
    platform ∈ provider.supportedPlatforms ↔ (provider.distribution? platform).isSome = true := by
  obtain ⟨-, renders, rfl⟩ := ofSettings_eq_ok_iff.1 made
  unfold distribution? supportedPlatforms
  split
  · next found rendered => exact (TemplatedSettings.isSome_of_render rendered).symm
  · next flaw failed =>
    refine iff_of_false (fun listed => ?_) nofun
    obtain ⟨found, rendered⟩ := renders platform listed
    cases failed.symm.trans rendered

/-- The platforms that settings list are the names in their table. -/
theorem TemplatedSettings.exists_table_of_decoder {members : List (String × Json)}
    (read : decoder .toml (.object members) = .ok settings) :
    ∃ table, (SortedMap.ofList members).get? "platforms" = some (.object table) ∧
      ∀ platform, platform ∈ settings.platforms.keys ↔ platform.name ∈ table.map Prod.fst := by
  obtain ⟨_, document, found, targets⟩ :=
    exists_platforms_of_read (Record.read_of_decoder_object read)
  obtain ⟨table, rfl, listed⟩ := Platform.mem_keys_of_map targets
  exact ⟨table, found, listed⟩

end Template

/-- The name under which the settings of a kind list platforms. -/
def ProviderKind.tableName : ProviderKind → String
  | static => "distributions"
  | templated => "platforms"

namespace Provider

theorem supportedPlatforms_ascending (provider : Provider) :
    provider.supportedPlatforms.Pairwise fun a b => compare a b = .lt := by
  cases provider with
  | static provider => exact provider.distributions.keys_ascending
  | templated provider => exact provider.settings.platforms.keys_ascending

/-- What holds of a provider made from settings of a kind: the platforms that it lists are those in the
table of the settings, and those for which it has a distribution. -/
structure Covers (provider : Provider) (kind : ProviderKind) (members : List (String × Json)) : Prop where
  table : ∃ table, (SortedMap.ofList members).get? kind.tableName = some (.object table) ∧
    ∀ platform, platform ∈ provider.supportedPlatforms ↔ platform.name ∈ table.map Prod.fst
  found : ∀ platform,
    platform ∈ provider.supportedPlatforms ↔ (provider.distribution? platform).isSome = true

theorem covers_of_create {kind : ProviderKind} {members : List (String × Json)} {provider : Provider}
    (made : (create kind identifier isLazy (.object members)).result = .ok provider) :
    provider.Covers kind members := by
  cases kind with
  | static =>
    obtain ⟨settings, table, read, filled, rfl⟩ := create_static_eq_ok_iff.1 made
    refine ⟨?_, fun platform => StaticProvider.mem_supportedPlatforms_iff⟩
    simp only [supportedPlatforms, StaticProvider.supportedPlatforms_of_ofSettings filled]
    exact StaticSettings.exists_table_of_decoder read
  | templated =>
    obtain ⟨settings, template, read, tried, rfl⟩ := create_templated_eq_ok_iff.1 made
    refine ⟨?_, fun platform => TemplatedProvider.mem_supportedPlatforms_iff tried⟩
    obtain ⟨-, -, rfl⟩ := TemplatedProvider.ofSettings_eq_ok_iff.1 tried
    have listed := TemplatedSettings.exists_table_of_decoder read
    exact listed

/-- A provider made from settings has a distribution for exactly those platforms that are names in the
table of the settings, and lists these in their order. All of its distributions and their files go by the
identifier for which it was made, and are downloaded. -/
theorem create_covers {kind : ProviderKind} {members : List (String × Json)} {provider : Provider}
    (made : (create kind identifier isLazy (.object members)).result = .ok provider) :
    (∃ table, (SortedMap.ofList members).get? kind.tableName = some (.object table) ∧
      ∀ platform, (provider.distribution? platform).isSome = true ↔ platform.name ∈ table.map Prod.fst) ∧
    provider.supportedPlatforms =
      Platform.all.filter (fun platform => (provider.distribution? platform).isSome) ∧
    provider.identifier = identifier ∧
    ∀ platform dist, provider.distribution? platform = some dist →
      dist.id = provider.identifier ∧ dist.file.id = provider.identifier.text ∧
        dist.file.source = some .fetch := by
  have covers := covers_of_create made
  have created : provider.Created := ⟨kind, identifier, isLazy, .object members, made⟩
  refine ⟨?_, ?_, identifier_of_create made, ?_⟩
  · obtain ⟨table, found, listed⟩ := covers.table
    refine ⟨table, found, fun platform => ?_⟩
    rw [← covers.found, listed]
  · exact Platform.eq_filter_all provider.supportedPlatforms_ascending covers.found
  · intro platform dist present
    have carries := created.carries present
    exact ⟨carries.id, carries.fileId, carries.source⟩

/-- Settings with blanks around a location that has both fields, for two platforms, one of which has a name
with a slash and a field in it. -/
def toolTable : List (String × Json) :=
  [("url", .string " u/\x7bversion\x7d/\x7bplatform\x7d "),
    ("version", .string "1"),
    ("platforms", .object [
      ("windows-x86_64", .object []),
      ("linux-x86_64", .object [("name", .string "x/\x7bversion\x7d.zip")])])]

/-- The settings as they are read, with a given location. -/
def toolSettings (url : String) : TemplatedSettings where
  url
  version := some "1"
  fileName := none
  fileType := none
  placeholders := .empty
  platforms := ⟨[(.linuxX86_64, ⟨some "x/\x7bversion\x7d.zip", none⟩), (.windowsX86_64, ⟨none, none⟩)],
    by decide⟩

/-- The provider that is made from the settings. -/
def toolProvider : TemplatedProvider where
  identifier := ⟨"tool", by decide⟩
  isLazy := false
  settings := toolSettings "u/\x7bversion\x7d/\x7bplatform\x7d"

theorem create_toolProvider :
    (create .templated toolProvider.identifier false (.object toolTable)).result =
      .ok (.templated toolProvider) := by
  have read : TemplatedSettings.decoder .toml (.object toolTable) =
      .ok (toolSettings " u/\x7bversion\x7d/\x7bplatform\x7d ") := by rfl
  have trimmed : (toolSettings " u/\x7bversion\x7d/\x7bplatform\x7d ").trimmed = toolProvider.settings := by
    have url : Text.trim " u/\x7bversion\x7d/\x7bplatform\x7d " = "u/\x7bversion\x7d/\x7bplatform\x7d" := by
      decide +kernel
    rw [TemplatedSettings.trimmed, toolSettings, url]
    rfl
  refine create_templated_eq_ok_iff.2 ⟨_, toolProvider, read, ?_, rfl⟩
  rw [TemplatedProvider.ofSettings_eq_ok_iff, trimmed]
  refine ⟨rfl, ?_, rfl⟩
  intro platform listed
  change platform ∈ [.linuxX86_64, .windowsX86_64] at listed
  simp only [List.mem_cons, List.not_mem_nil, or_false] at listed
  rw [TemplatedSettings.exists_render_iff]
  rcases listed with rfl | rfl
  · rintro target ⟨⟩
    decide +kernel
  · rintro target ⟨⟩
    decide +kernel

/-- Both platforms are listed in their order and have a distribution, and no other platform has one. -/
theorem create_covers_toolProvider :
    (create .templated toolProvider.identifier false (.object toolTable)).result =
        .ok (.templated toolProvider) ∧
      toolProvider.supportedPlatforms = Platform.all.filter (fun platform =>
        (toolProvider.distribution? platform).isSome) ∧
      (toolProvider.distribution? .linuxX86_64).isSome = true ∧
      (toolProvider.distribution? .macosX86_64).isSome = false := by
  obtain ⟨⟨table, found, listed⟩, supported, -, -⟩ := create_covers create_toolProvider
  cases found
  refine ⟨create_toolProvider, supported, ?_⟩
  constructor
  · exact (listed .linuxX86_64).2 (by decide)
  · rw [← Bool.not_eq_true]
    exact mt (listed .macosX86_64).1 (by decide)

end Provider

end AppBundle
