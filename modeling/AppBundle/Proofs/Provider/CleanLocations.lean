import AppBundle.Proofs.Provider.Acceptance
import AppBundle.Proofs.Provider.Table
import AppBundle.Proofs.Text.Filling

/-! # Locations without blanks around them

A table hands out the location that it has tried, so that it is not empty and has no blanks at its ends. A
template is tried before it is filled in: a name or a version that is inserted at an end of it, with nothing
else that is visible there, decides whether the location begins and ends visibly. Clean names and a clean
version do no harm, and the names that platforms have by themselves are clean.
-/

namespace AppBundle

open Document

theorem Platform.clean_name (platform : Platform) : Text.Clean platform.name := by
  cases platform <;> decide +kernel

namespace TemplatedSettings

/-- The location with a name filled in begins and ends visibly, and still does with the version filled in. -/
structure ShowsEnds (settings : TemplatedSettings) (platformName : String) : Prop where
  platform : Text.ShowsEnds settings.url platformField platformName
  version : ∀ version ∈ settings.version,
    Text.ShowsEnds (Text.replace settings.url platformField platformName) versionField version

variable {settings : TemplatedSettings} {platformName : String}

theorem clean_substitute_iff :
    Text.Clean (settings.substitute settings.url platformName) ↔ settings.ShowsEnds platformName := by
  constructor
  · intro clean
    unfold substitute at clean
    cases given : settings.version with
    | none =>
      rw [given] at clean
      exact ⟨Text.clean_replace_iff.1 clean, by simp [given]⟩
    | some version =>
      rw [given] at clean
      have shows := Text.clean_replace_iff.1 clean
      -- The version field is visible itself, so that the version can not make up for the name.
      have marked : Text.Clean versionField := by decide +kernel
      refine ⟨Text.clean_replace_iff.1 (shows.clean marked), ?_⟩
      rintro _ same
      cases given.symm.trans same
      exact shows
  · rintro ⟨platform, version⟩
    unfold substitute
    cases given : settings.version with
    | none => exact Text.clean_replace_iff.2 platform
    | some text => exact Text.clean_replace_iff.2 (version text given)

/-- What is clean can be filled in everywhere. -/
theorem showsEnds_of_clean (url : Text.Clean settings.url) (name : Text.Clean platformName)
    (version : ∀ version ∈ settings.version, Text.Clean version) : settings.ShowsEnds platformName := by
  have platform : Text.ShowsEnds settings.url platformField platformName :=
    url.showsEnds (by decide) name
  refine ⟨platform, ?_⟩
  intro text given
  exact (Text.clean_replace_iff.2 platform).showsEnds (by decide) (version text given)

end TemplatedSettings

variable {identifier : Identifier} {isLazy : Bool} {platform : Platform} {dist : Distribution}

theorem StaticProvider.clean_url {settings : StaticSettings} {table : StaticProvider}
    (made : ofSettings identifier isLazy settings = .ok table)
    (found : table.distribution? platform = some dist) : Text.Clean dist.url := by
  obtain ⟨entry, -, given⟩ := (distribution?_eq_some_iff made).1 found
  obtain ⟨filled, gives⟩ := StaticEntry.distribution_eq_ok_iff.1 given
  rw [gives.url]
  exact Text.clean_trim filled

namespace TemplatedProvider

variable {settings : TemplatedSettings} {template : TemplatedProvider}

theorem clean_template (made : ofSettings identifier isLazy settings = .ok template) :
    Text.Clean settings.trimmed.url := by
  obtain ⟨passed, -, -⟩ := ofSettings_eq_ok_iff.1 made
  exact Text.clean_trim (TemplatedSettings.check_eq_ok_iff.1 passed).1

/-- Where the ends of a location are looked at before it is handed out. -/
theorem exists_clean_url_iff (made : ofSettings identifier isLazy settings = .ok template)
    (found : template.distribution? platform = some dist) :
    ∃ target, settings.platforms.get? platform = some target ∧
      (Text.Clean dist.url ↔ settings.trimmed.ShowsEnds (target.name.getD platform.name)) := by
  obtain ⟨-, -, rfl⟩ := ofSettings_eq_ok_iff.1 made
  obtain ⟨target, name, listed, -, rfl⟩ := distribution?_eq_some_iff.1 found
  exact ⟨target, listed, TemplatedSettings.clean_substitute_iff⟩

end TemplatedProvider

namespace Provider

variable {kind : ProviderKind} {document : Json} {provider : Provider}

/-- Which locations are clean. Those of a table always are. That of a template is for a platform exactly if
its ends show when the name of the platform and the version are filled in; this is so in particular if these
are clean. -/
theorem create_clean_locations (made : (create kind identifier isLazy document).result = .ok provider)
    (found : provider.distribution? platform = some dist) :
    (kind = .static → Text.Clean dist.url) ∧
      (kind = .templated → ∃ settings target, TemplatedSettings.decoder .toml document = .ok settings ∧
        settings.platforms.get? platform = some target ∧
        (Text.Clean dist.url ↔ settings.trimmed.ShowsEnds (target.name.getD platform.name)) ∧
        ((∀ name ∈ target.name, Text.Clean name) → (∀ version ∈ settings.version, Text.Clean version) →
          Text.Clean dist.url)) := by
  constructor
  · rintro rfl
    obtain ⟨settings, table, -, filled, rfl⟩ := create_static_eq_ok_iff.1 made
    exact StaticProvider.clean_url filled found
  · rintro rfl
    obtain ⟨settings, template, read, tried, rfl⟩ := create_templated_eq_ok_iff.1 made
    obtain ⟨target, listed, shows⟩ := TemplatedProvider.exists_clean_url_iff tried found
    refine ⟨settings, target, read, listed, shows, ?_⟩
    intro names version
    have name : Text.Clean (target.name.getD platform.name) := by
      cases given : target.name with
      | none => exact platform.clean_name
      | some name => exact names name given
    exact shows.2 (TemplatedSettings.showsEnds_of_clean (TemplatedProvider.clean_template tried) name version)

/-- Settings whose location is nothing but the name of the platform. -/
def bareTable : Json :=
  .object [
    ("url", .string "\x7bplatform\x7d"),
    ("file_name", .string "kit.zip"),
    ("platforms", .object [
      ("linux-x86_64", .object [("name", .string "")]),
      ("macos-aarch64", .object [("name", .string " m")]),
      ("windows-x86_64", .object [])])]

/-- The settings as they are read. -/
def bareSettings : TemplatedSettings where
  url := "\x7bplatform\x7d"
  version := none
  fileName := some "kit.zip"
  fileType := none
  placeholders := .empty
  platforms := ⟨[(.linuxX86_64, ⟨some "", none⟩), (.macosAarch64, ⟨some " m", none⟩),
    (.windowsX86_64, ⟨none, none⟩)], by decide⟩

/-- The provider that is made from the settings. -/
def bareProvider : TemplatedProvider := ⟨⟨"bare", by decide⟩, false, bareSettings.trimmed⟩

theorem ofSettings_bareSettings :
    TemplatedProvider.ofSettings bareProvider.identifier false bareSettings = .ok bareProvider := by
  have renders : bareSettings.trimmed.Renderable := by decide +kernel
  exact TemplatedProvider.ofSettings_of_renderable renders

/-- An empty name and one that begins with a blank show in the location, the name of a platform itself does
not. -/
theorem create_clean_locations_bare :
    (create .templated bareProvider.identifier false bareTable).result = .ok (.templated bareProvider) ∧
      ∃ linux macos windows,
        bareProvider.distribution? .linuxX86_64 = some linux ∧ ¬ Text.Clean linux.url ∧
        bareProvider.distribution? .macosAarch64 = some macos ∧ ¬ Text.Clean macos.url ∧
        bareProvider.distribution? .windowsX86_64 = some windows ∧ Text.Clean windows.url := by
  have read : TemplatedSettings.decoder .toml bareTable = .ok bareSettings := by rfl
  have made := create_templated_eq_ok_iff.2 ⟨_, _, read, ofSettings_bareSettings, rfl⟩
  have listed (platform : Platform) (target : TemplatedTarget)
      (stored : bareSettings.platforms.get? platform = some target) :
      ∃ dist, bareProvider.distribution? platform = some dist ∧
        (Text.Clean dist.url ↔ bareSettings.trimmed.ShowsEnds (target.name.getD platform.name)) ∧
        ((∀ name ∈ target.name, Text.Clean name) → Text.Clean dist.url) := by
    obtain ⟨dist, found, -⟩ := TemplatedProvider.exists_distribution?_of_listed ofSettings_bareSettings stored
    obtain ⟨settings, other, again, same, shows, clean⟩ := (create_clean_locations made found).2 rfl
    cases read.symm.trans again
    cases stored.symm.trans same
    refine ⟨dist, found, shows, ?_⟩
    intro names
    apply clean names
    rintro _ ⟨⟩
  obtain ⟨linux, onLinux, linuxShows, -⟩ := listed .linuxX86_64 _ rfl
  obtain ⟨macos, onMacos, macosShows, -⟩ := listed .macosAarch64 _ rfl
  obtain ⟨windows, onWindows, -, windowsClean⟩ := listed .windowsX86_64 _ rfl
  refine ⟨made, linux, macos, windows, onLinux, ?_, onMacos, ?_, onWindows, ?_⟩
  · rw [linuxShows, ← TemplatedSettings.clean_substitute_iff]
    decide +kernel
  · rw [macosShows, ← TemplatedSettings.clean_substitute_iff]
    decide +kernel
  · apply windowsClean
    rintro _ ⟨⟩

/-- The provider is made, and the location that it hands out for the first platform is empty. -/
theorem create_bare_location :
    TemplatedSettings.decoder .toml bareTable = .ok bareSettings ∧
      (create .templated bareProvider.identifier false bareTable).result = .ok (.templated bareProvider) ∧
      ∃ dist, bareProvider.distribution? .linuxX86_64 = some dist ∧ dist.url = "" ∧
        ¬ Text.Clean dist.url := by
  have read : TemplatedSettings.decoder .toml bareTable = .ok bareSettings := by rfl
  have made := create_templated_eq_ok_iff.2 ⟨_, _, read, ofSettings_bareSettings, rfl⟩
  have listed : bareProvider.settings.platforms.get? .linuxX86_64 = some ⟨some "", none⟩ := rfl
  obtain ⟨dist, found, url⟩ := TemplatedProvider.exists_distribution?_of_listed ofSettings_bareSettings listed
  have location : bareProvider.settings.location .linuxX86_64 ⟨some "", none⟩ = "" := by decide +kernel
  refine ⟨read, made, dist, found, url.trans location, ?_⟩
  intro clean
  exact clean.1 (url.trans location)

end Provider

end AppBundle
