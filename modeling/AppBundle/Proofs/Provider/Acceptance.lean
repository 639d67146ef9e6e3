import AppBundle.Proofs.Provider.Creation
import AppBundle.Proofs.Url

/-! # Templates that can be rendered

Settings with a template are accepted exactly if they have a location, tell several platforms apart, know the
version that they use, and find a name for the file of every platform. The last of these is judged by the
location as it is rendered: a slash, a question mark or a number sign in the name of a platform or in the
version can give a location a file name as well as take it away. Otherwise the first of the conditions that is
violated is reported, the last one for the least platform.
-/

namespace AppBundle

open Document

namespace TemplatedSettings

/-- The texts in which fields are filled in. -/
def templates (settings : TemplatedSettings) : List String := settings.url :: settings.fileName.toList

/-- Several platforms are told apart by the location. -/
def TellsPlatforms (settings : TemplatedSettings) : Prop :=
  settings.platforms.size ≤ 1 ∨ platformField.toList <:+: settings.url.toList

/-- The version is given if a template uses it. -/
def KnowsVersion (settings : TemplatedSettings) : Prop :=
  settings.version ≠ none ∨ ∀ template ∈ settings.templates, ¬ versionField.toList <:+: template.toList

/-- A location can be rendered, with a file name, for every listed platform. -/
structure Renderable (settings : TemplatedSettings) : Prop where
  url : settings.url ≠ ""
  platforms : settings.TellsPlatforms
  version : settings.KnowsVersion
  fileName : settings.fileName ≠ none ∨
    ∀ platform target, settings.platforms.get? platform = some target →
      ∃ name, Url.Names (settings.location platform target) name

/-- The first condition that settings violate. Each counts only if those before it are met. -/
inductive FirstFlaw (settings : TemplatedSettings) : SettingsFlaw → Prop where
  | emptyUrl (blank : settings.url = "") : FirstFlaw settings (.emptyUrl none)
  | noPlatformField (filled : settings.url ≠ "") (shared : ¬ settings.TellsPlatforms) :
    FirstFlaw settings (.noPlatformField settings.url settings.platforms.size)
  | noVersion (filled : settings.url ≠ "") (apart : settings.TellsPlatforms)
    (missing : ¬ settings.KnowsVersion) : FirstFlaw settings .noVersion
  | noFileName {platform : Platform} {target : TemplatedTarget} (filled : settings.url ≠ "")
    (apart : settings.TellsPlatforms) (known : settings.KnowsVersion) (absent : settings.fileName = none)
    (least : settings.platforms.LeastWith
      (fun platform target => ¬ ∃ name, Url.Names (settings.location platform target) name)
      platform target) :
    FirstFlaw settings (.noFileName platform (settings.location platform target))

variable {settings : TemplatedSettings} {identifier : Identifier} {platform : Platform}
  {target : TemplatedTarget} {flaw : SettingsFlaw}

theorem usesVersion_iff :
    settings.usesVersion = true ↔
      ∃ template ∈ settings.templates, versionField.toList <:+: template.toList := by
  rw [usesVersion, templates, Bool.or_eq_true, List.exists_mem_cons_iff, Text.contains, Text.containsChars_iff]
  refine or_congr_right ?_
  cases settings.fileName <;> simp [Text.contains, Text.containsChars_iff]

instance (settings : TemplatedSettings) : Decidable settings.TellsPlatforms :=
  inferInstanceAs (Decidable (_ ∨ _))

instance (settings : TemplatedSettings) : Decidable settings.KnowsVersion :=
  inferInstanceAs (Decidable (_ ∨ _))

/-- The conditions can be tried one after the other, the last one on the list of platforms. -/
theorem renderable_iff_forall_entry :
    settings.Renderable ↔ settings.url ≠ "" ∧ settings.TellsPlatforms ∧ settings.KnowsVersion ∧
      (settings.fileName ≠ none ∨ ∀ entry ∈ settings.platforms.toList,
        ∃ name, Url.Names (settings.location entry.1 entry.2) name) := by
  simp only [Prod.forall, ← SortedMap.get?_eq_some_iff]
  constructor
  · rintro ⟨url, platforms, version, fileName⟩
    exact ⟨url, platforms, version, fileName⟩
  · rintro ⟨url, platforms, version, fileName⟩
    exact ⟨url, platforms, version, fileName⟩

instance (settings : TemplatedSettings) : Decidable settings.Renderable :=
  decidable_of_iff' _ renderable_iff_forall_entry

/-- The check is about the location, the platforms and the version, in this order. -/
theorem check_eq (settings : TemplatedSettings) :
    settings.check =
      if settings.url = "" then .error (.emptyUrl none)
      else if ¬ settings.TellsPlatforms then .error (.noPlatformField settings.url settings.platforms.size)
      else if ¬ settings.KnowsVersion then .error .noVersion
      else .ok () := by
  have shared : (decide (1 < settings.platforms.size) && !Text.contains settings.url platformField) = true ↔
      ¬ settings.TellsPlatforms := by
    simp [TellsPlatforms, Text.contains, ← Text.containsChars_iff]
  have missing : (settings.usesVersion && settings.version.isNone) = true ↔ ¬ settings.KnowsVersion := by
    rw [Bool.and_eq_true, usesVersion_iff, Option.isNone_iff_eq_none, KnowsVersion, not_or, not_not, and_comm]
    simp
  simp only [check, String.isEmpty_iff, shared, missing]

theorem check_eq_ok_iff :
    settings.check = .ok () ↔ settings.url ≠ "" ∧ settings.TellsPlatforms ∧ settings.KnowsVersion := by
  rw [check_eq]
  split_ifs <;> simp_all

theorem fileName?_eq_none_iff :
    settings.fileName? platform target = none ↔
      settings.fileName = none ∧ ¬ ∃ name, Url.Names (settings.location platform target) name := by
  rw [fileName?, Option.or_eq_none_iff, Option.map_eq_none_iff, Url.exists_names_iff,
    Option.not_isSome_iff_eq_none]

theorem render_eq_error_iff :
    settings.render identifier platform = .error flaw ↔
      ∃ target, settings.platforms.get? platform = some target ∧
        settings.fileName? platform target = none ∧
          .noFileName platform (settings.location platform target) = flaw := by
  cases present : settings.platforms.get? platform with
  | none => simp [render_of_absent present]
  | some target =>
    rw [render_of_present present]
    cases named : settings.fileName? platform target <;> simp [named]

/-- A listed platform can not be rendered if it has no file name. -/
theorem exists_render_error_iff (present : settings.platforms.get? platform = some target) :
    (∃ flaw, settings.render identifier platform = .error flaw) ↔
      settings.fileName? platform target = none := by
  simp [render_eq_error_iff, present]

/-- Trying all platforms fails for the least one without a file name. -/
theorem failsFirst_render_iff :
    FailsFirst (fun platform => (discard (settings.render identifier platform) : Except SettingsFlaw Unit))
        flaw settings.platforms.keys ↔
      settings.fileName = none ∧ ∃ platform target,
        settings.platforms.LeastWith
          (fun platform target => ¬ ∃ name, Url.Names (settings.location platform target) name)
          platform target ∧
        .noFileName platform (settings.location platform target) = flaw := by
  rw [SortedMap.failsFirst_keys_iff]
  simp only [Except.discard_eq_error_iff]
  have kinds (absent : settings.fileName = none) (platform : Platform) (target : TemplatedTarget)
      (present : settings.platforms.get? platform = some target) :
      (∃ flaw, settings.render identifier platform = .error flaw) ↔
        ¬ ∃ name, Url.Names (settings.location platform target) name := by
    rw [exists_render_error_iff present, fileName?_eq_none_iff, and_iff_right absent]
  constructor
  · rintro ⟨platform, target, least, failed⟩
    obtain ⟨_, listed, unnamed, same⟩ := render_eq_error_iff.1 failed
    cases least.present.symm.trans listed
    have absent := (fileName?_eq_none_iff.1 unnamed).1
    exact ⟨absent, platform, target, (SortedMap.LeastWith.congr (kinds absent)).1 least, same⟩
  · rintro ⟨absent, platform, target, least, same⟩
    have unnamed : settings.fileName? platform target = none := fileName?_eq_none_iff.2 ⟨absent, least.holds⟩
    refine ⟨platform, target, (SortedMap.LeastWith.congr (kinds absent)).2 least, ?_⟩
    exact render_eq_error_iff.2 ⟨target, least.present, unnamed, same⟩

/-- Settings are judged by the first condition that they violate. -/
theorem firstFlaw_iff :
    settings.FirstFlaw flaw ↔
      settings.check = .error flaw ∨ settings.check = .ok () ∧ settings.fileName = none ∧
        ∃ platform target, settings.platforms.LeastWith
            (fun platform target => ¬ ∃ name, Url.Names (settings.location platform target) name)
            platform target ∧
          .noFileName platform (settings.location platform target) = flaw := by
  constructor
  · intro first
    cases first with
    | emptyUrl blank => simp [check_eq, blank]
    | noPlatformField filled shared => simp [check_eq, filled, shared]
    | noVersion filled apart missing => simp [check_eq, filled, apart, missing]
    | noFileName filled apart known absent least =>
      exact .inr ⟨check_eq_ok_iff.2 ⟨filled, apart, known⟩, absent, _, _, least, rfl⟩
  · rintro (failed | ⟨passed, absent, platform, target, least, rfl⟩)
    · rw [check_eq] at failed
      split_ifs at failed with blank apart known
      all_goals cases failed
      · exact .emptyUrl blank
      · exact .noVersion blank apart known
      · exact .noPlatformField blank apart
    · obtain ⟨filled, apart, known⟩ := check_eq_ok_iff.1 passed
      exact .noFileName filled apart known absent least

/-- What is rendered for all platforms meets the last condition. -/
theorem renderable_iff :
    settings.Renderable ↔
      settings.check = .ok () ∧ ∀ platform ∈ settings.platforms.keys,
        ∃ found, settings.render identifier platform = .ok found := by
  have named : (∀ platform ∈ settings.platforms.keys,
        ∃ found, settings.render identifier platform = .ok found) ↔
      settings.fileName ≠ none ∨ ∀ platform target, settings.platforms.get? platform = some target →
        ∃ name, Url.Names (settings.location platform target) name := by
    have passes (platform : Platform) (target : TemplatedTarget) :
        (settings.fileName? platform target).isSome = true ↔
          settings.fileName ≠ none ∨ ∃ name, Url.Names (settings.location platform target) name := by
      rw [Option.isSome_iff_ne_none, ne_eq, fileName?_eq_none_iff, not_and_or, not_not]
    simp only [exists_render_iff, passes, SortedMap.mem_keys_iff]
    constructor
    · intro tried
      by_cases absent : settings.fileName = none
      · refine .inr fun platform target listed => ?_
        exact (tried platform ⟨target, listed⟩ target listed).resolve_left (not_not.2 absent)
      · exact .inl absent
    · rintro (given | named) platform - target listed
      · exact .inl given
      · exact .inr (named platform target listed)
  rw [check_eq_ok_iff, named]
  constructor
  · rintro ⟨filled, apart, known, fileNames⟩
    exact ⟨⟨filled, apart, known⟩, fileNames⟩
  · rintro ⟨⟨filled, apart, known⟩, fileNames⟩
    exact ⟨filled, apart, known, fileNames⟩

end TemplatedSettings

namespace TemplatedProvider

variable {identifier : Identifier} {isLazy : Bool} {settings : TemplatedSettings} {flaw : SettingsFlaw}

theorem ofSettings_eq_error_iff :
    ofSettings identifier isLazy settings = .error flaw ↔ settings.trimmed.FirstFlaw flaw := by
  rw [TemplatedSettings.firstFlaw_iff]
  refine Except.check_bind_eq_error_iff.trans (or_congr_right (and_congr_right fun _ => ?_))
  refine Except.check_bind_eq_error_iff.trans ((or_iff_left ?_).trans ?_)
  · rintro ⟨-, failed⟩
    cases failed
  · exact forM_eq_error_iff.trans TemplatedSettings.failsFirst_render_iff

theorem exists_ofSettings_iff :
    (∃ template, ofSettings identifier isLazy settings = .ok template) ↔ settings.trimmed.Renderable := by
  have renders := @TemplatedSettings.renderable_iff settings.trimmed identifier
  rw [renders]
  simp only [ofSettings_eq_ok_iff]
  constructor
  · rintro ⟨template, passed, tried, -⟩
    exact ⟨passed, tried⟩
  · rintro ⟨passed, tried⟩
    exact ⟨_, passed, tried, rfl⟩

/-- The provider of settings that can be rendered is made of them and of what else is given. -/
theorem ofSettings_of_renderable (renders : settings.trimmed.Renderable) :
    ofSettings identifier isLazy settings = .ok ⟨identifier, isLazy, settings.trimmed⟩ := by
  obtain ⟨template, made⟩ := exists_ofSettings_iff.2 renders
  obtain ⟨-, -, rfl⟩ := ofSettings_eq_ok_iff.1 made
  exact made

end TemplatedProvider

namespace Provider

variable {identifier : Identifier} {isLazy : Bool} {document : Json} {settings : TemplatedSettings}

/-- What becomes of settings that are read as a template: a provider is made from them exactly if they can be
rendered, with the blanks around the location taken away, and otherwise they are refused for the first
condition that they violate. -/
theorem create_templated_outcome (identifier : Identifier) (isLazy : Bool)
    (read : TemplatedSettings.decoder .toml document = .ok settings) :
    let outcome := (create .templated identifier isLazy document).result
    ((∃ provider, outcome = .ok provider) ↔ settings.trimmed.Renderable) ∧
      ∀ error, outcome = .error error ↔
        ∃ flaw, settings.trimmed.FirstFlaw flaw ∧ error = .unusable identifier flaw := by
  dsimp only
  rw [create_templated_of_read read]
  constructor
  · rw [Except.exists_map_mapError_eq_ok_iff, TemplatedProvider.exists_ofSettings_iff]
  · intro error
    rw [Except.map_mapError_eq_error_iff]
    simp only [TemplatedProvider.ofSettings_eq_error_iff]

/-- Settings for three platforms in which the version begins a fragment. -/
def fragmentTable : Json :=
  .object [
    ("url", .string " u/\x7bplatform\x7d/\x7bversion\x7d"),
    ("version", .string "#1"),
    ("platforms", .object [
      ("windows-x86_64", .object []),
      ("macos-aarch64", .object [("name", .string "m")]),
      ("linux-x86_64", .object [("name", .string "a.zip?")])])]

/-- The settings as they are read. -/
def fragmentSettings : TemplatedSettings where
  url := " u/\x7bplatform\x7d/\x7bversion\x7d"
  version := some "#1"
  fileName := none
  fileType := none
  placeholders := .empty
  platforms := ⟨[(.linuxX86_64, ⟨some "a.zip?", none⟩), (.macosAarch64, ⟨some "m", none⟩),
    (.windowsX86_64, ⟨none, none⟩)], by decide⟩

/-- A question mark in the name of a platform saves the file name from the version, so that the platform
without it is the first one that is reported. -/
theorem create_templated_fragment :
    TemplatedSettings.decoder .toml fragmentTable = .ok fragmentSettings ∧
      Url.Names (fragmentSettings.trimmed.location .linuxX86_64 ⟨some "a.zip?", none⟩) "a.zip" ∧
      (create .templated ⟨"kit", by decide⟩ false fragmentTable).result =
        .error (.unusable ⟨"kit", by decide⟩ (.noFileName .macosAarch64 "u/m/#1")) := by
  have read : TemplatedSettings.decoder .toml fragmentTable = .ok fragmentSettings := by rfl
  have named : Url.Names (fragmentSettings.trimmed.location .linuxX86_64 ⟨some "a.zip?", none⟩) "a.zip" := by
    rw [← Url.fileName?_eq_some_iff]
    decide +kernel
  have location : fragmentSettings.trimmed.location .macosAarch64 ⟨some "m", none⟩ = "u/m/#1" := by
    decide +kernel
  have unnamed : ¬ ∃ name, Url.Names "u/m/#1" name := by decide +kernel
  have least : fragmentSettings.trimmed.platforms.LeastWith
      (fun platform target => ¬ ∃ name, Url.Names (fragmentSettings.trimmed.location platform target) name)
      .macosAarch64 ⟨some "m", none⟩ := by
    refine ⟨rfl, location ▸ unnamed, ?_⟩
    intro other target below listed
    have member := (SortedMap.get?_eq_some_iff _).1 listed
    simp only [SortedMap.toList, TemplatedSettings.trimmed, fragmentSettings, List.mem_cons, List.not_mem_nil,
      or_false, Prod.mk.injEq] at member
    rcases member with ⟨rfl, rfl⟩ | ⟨rfl, -⟩ | ⟨rfl, -⟩
    · exact not_not_intro ⟨_, named⟩
    · cases below
    · cases below
  have first : fragmentSettings.trimmed.FirstFlaw (.noFileName .macosAarch64 "u/m/#1") := by
    rw [← location]
    refine .noFileName ?_ ?_ ?_ rfl least
    · decide +kernel
    · decide +kernel
    · decide +kernel
  refine ⟨read, named, ?_⟩
  exact ((create_templated_outcome ⟨"kit", by decide⟩ false read).2 _).2 ⟨_, first, rfl⟩

end Provider

end AppBundle
