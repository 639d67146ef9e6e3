import AppBundle.Proofs.Provider.Acceptance
import AppBundle.Proofs.Provider.Template
import AppBundle.Proofs.Text.Filling

/-! # Version fields that are left over

Settings without a version are refused if a template has the version field, and then nothing replaces the
field where it turns up otherwise. It turns up in what is rendered if the name of a platform brings it along,
or if it is put together where the name meets the template: `\x7bver\x7bplatform\x7d` and the name `sion\x7d`
make one. These are the only ways, and there is none if every opening brace of the templates begins a field
and the name has no opening brace.
-/

namespace AppBundle

open Document

/-- A text can be read in the location or in the file name of a distribution. -/
def Distribution.Shows (dist : Distribution) (text : String) : Prop :=
  text.toList <:+: dist.url.toList ∨ text.toList <:+: dist.file.name.toList

/-- The name of a platform brings the version field into a template, or completes one that is cut there. -/
def LeavesVersion (template platformName : String) : Prop :=
  platformField.toList <:+: template.toList ∧ versionField.toList <:+: platformName.toList ∨
    Straddles (Text.fill platformName.toList) versionField.toList
      (Text.cut platformField.toList template.toList)

theorem leavesVersion_iff {template platformName : String} :
    LeavesVersion template platformName ↔
      versionField.toList <:+: (Text.replace template platformField platformName).toList := by
  rw [Text.replace, String.toList_ofList]
  exact (Text.infix_replaceChars_iff (by decide) (by decide)).symm

/-- A name without an opening brace leaves nothing in a template without stray opening braces. -/
theorem not_leavesVersion_of_opens {template platformName : String}
    (opens : TemplateField.Opens template.toList) (closed : '{' ∉ platformName.toList)
    (unused : ¬ versionField.toList <:+: template.toList) : ¬ LeavesVersion template platformName := by
  intro leaves
  have plain := TemplatePart.literal_notMem_split opens
  have written := TemplatePart.write_split template.toList
  have filled : Text.replaceChars platformField.toList platformName.toList
      (TemplatePart.write (TemplatePart.split template.toList)) = _ :=
    TemplatePart.replaceChars_write plain .platform platformName.toList
  rw [leavesVersion_iff, Text.replace, String.toList_ofList, ← written, filled] at leaves
  have brace : '{' ∈ versionField.toList := by decide
  obtain ⟨part, member, inside⟩ := List.mem_flatMap.1 (leaves.subset brace)
  cases part with
  | literal char =>
    obtain rfl := List.mem_singleton.1 inside
    exact plain member
  | field name =>
    cases name with
    | platform => exact closed inside
    | version =>
      apply unused
      rw [← written]
      exact (infix_flatMap_iff (by decide)).2 (.inl ⟨_, member, List.infix_rfl⟩)

namespace TemplatedSettings

variable {settings : TemplatedSettings} {platform : Platform} {target : TemplatedTarget}

/-- Without a version its field stays where it is left. -/
theorem infix_substitute_iff (unversioned : settings.version = none) (template platformName : String) :
    versionField.toList <:+: (settings.substitute template platformName).toList ↔
      LeavesVersion template platformName := by
  rw [leavesVersion_iff, substitute, unversioned]

/-- The file name is a rendered template or a part of the location, so that it shows nothing else. -/
theorem infix_of_fileName? {name : String} (unversioned : settings.version = none)
    (named : settings.fileName? platform target = some name) :
    versionField.toList <:+: (settings.location platform target).toList ∨
        versionField.toList <:+: name.toList ↔
      ∃ template ∈ settings.templates, LeavesVersion template (target.name.getD platform.name) := by
  rw [templates, List.exists_mem_cons_iff, location, infix_substitute_iff unversioned]
  rw [fileName?, Option.or_eq_some_iff] at named
  cases given : settings.fileName with
  | some template =>
    simp only [given, Option.map_some, Option.some.injEq, reduceCtorEq, false_and, or_false] at named
    rw [← named, infix_substitute_iff unversioned]
    simp
  | none =>
    simp only [given, Option.map_none, reduceCtorEq, false_or, true_and] at named
    obtain ⟨front, rest, whole, -⟩ := Url.fileName?_eq_some_iff.1 named
    have inside : name.toList <:+: (settings.location platform target).toList := by
      rw [whole, String.toList_append, String.toList_append]
      exact List.infix_append _ _ _
    have shown : versionField.toList <:+: name.toList →
        LeavesVersion settings.url (target.name.getD platform.name) := fun occurs =>
      (infix_substitute_iff unversioned _ _).1 (occurs.trans inside)
    simpa using shown

end TemplatedSettings

namespace TemplatedProvider

variable {identifier : Identifier} {isLazy : Bool} {settings : TemplatedSettings} {template : TemplatedProvider}
  {platform : Platform} {dist : Distribution}

/-- Templates that are used without a version do not have the version field themselves. -/
theorem not_infix_of_unversioned (made : ofSettings identifier isLazy settings = .ok template)
    (unversioned : settings.version = none) :
    ∀ template ∈ settings.trimmed.templates, ¬ versionField.toList <:+: template.toList := by
  obtain ⟨passed, -, -⟩ := ofSettings_eq_ok_iff.1 made
  obtain ⟨-, -, known⟩ := TemplatedSettings.check_eq_ok_iff.1 passed
  apply known.resolve_left
  intro given
  exact given unversioned

/-- The version field shows in a distribution where a template is left with it. -/
theorem exists_shows_iff (made : ofSettings identifier isLazy settings = .ok template)
    (unversioned : settings.version = none) (found : template.distribution? platform = some dist) :
    ∃ target, settings.platforms.get? platform = some target ∧
      (dist.Shows versionField ↔ ∃ template ∈ settings.trimmed.templates,
        LeavesVersion template (target.name.getD platform.name)) := by
  obtain ⟨-, -, rfl⟩ := ofSettings_eq_ok_iff.1 made
  obtain ⟨target, name, listed, named, rfl⟩ := distribution?_eq_some_iff.1 found
  exact ⟨target, listed, TemplatedSettings.infix_of_fileName? unversioned named⟩

end TemplatedProvider

namespace Provider

variable {document : Json} {settings : TemplatedSettings}

/-- What becomes of the version field if no version is given. Settings whose templates have the field are
refused. Otherwise it shows in the distribution for a platform exactly if the name of the platform brings it
into one of the templates or completes it there, and so not if every opening brace of the templates begins a
field and the name has no opening brace. -/
theorem create_unversioned (identifier : Identifier) (isLazy : Bool)
    (read : TemplatedSettings.decoder .toml document = .ok settings) (unversioned : settings.version = none) :
    let outcome := (create .templated identifier isLazy document).result
    ((∃ template ∈ settings.trimmed.templates, versionField.toList <:+: template.toList) →
        ∃ flaw, outcome = .error (.unusable identifier flaw)) ∧
      ∀ provider, outcome = .ok provider → ∀ platform dist, provider.distribution? platform = some dist →
        ∃ target, settings.platforms.get? platform = some target ∧
          (dist.Shows versionField ↔ ∃ template ∈ settings.trimmed.templates,
            LeavesVersion template (target.name.getD platform.name)) ∧
          ((∀ template ∈ settings.trimmed.templates, TemplateField.Opens template.toList) →
            '{' ∉ (target.name.getD platform.name).toList → ¬ dist.Shows versionField) := by
  dsimp only
  rw [create_templated_of_read read]
  constructor
  · rintro ⟨template, listed, used⟩
    have refused : ∃ flaw, TemplatedProvider.ofSettings identifier isLazy settings = .error flaw := by
      by_contra accepted
      obtain ⟨provider, made⟩ := Except.exists_eq_ok_iff.2 (not_exists.1 accepted)
      exact TemplatedProvider.not_infix_of_unversioned made unversioned template listed used
    obtain ⟨flaw, failed⟩ := refused
    exact ⟨flaw, Except.map_mapError_eq_error_iff.2 ⟨flaw, failed, rfl⟩⟩
  · intro provider made platform dist found
    obtain ⟨template, tried, rfl⟩ := Except.map_mapError_eq_ok_iff.1 made
    obtain ⟨target, listed, shows⟩ := TemplatedProvider.exists_shows_iff tried unversioned found
    refine ⟨target, listed, shows, ?_⟩
    intro opens closed
    rw [shows]
    rintro ⟨text, member, leaves⟩
    have unused := TemplatedProvider.not_infix_of_unversioned tried unversioned text member
    exact not_leavesVersion_of_opens (opens text member) closed unused leaves

/-- Settings whose location has the platform inside of what would be a version field. -/
def seamTable : Json :=
  .object [
    ("url", .string "u/\x7bver\x7bplatform\x7d.zip"),
    ("platforms", .object [
      ("linux-x86_64", .object [("name", .string "sion\x7d")]),
      ("macos-aarch64", .object [("name", .string "\x7bversion\x7d")]),
      ("windows-x86_64", .object [])])]

/-- The settings as they are read. -/
def seamSettings : TemplatedSettings where
  url := "u/\x7bver\x7bplatform\x7d.zip"
  version := none
  fileName := none
  fileType := none
  placeholders := .empty
  platforms := ⟨[(.linuxX86_64, ⟨some "sion\x7d", none⟩),
    (.macosAarch64, ⟨some "\x7bversion\x7d", none⟩), (.windowsX86_64, ⟨none, none⟩)], by decide⟩

/-- The provider that is made from the settings. -/
def seamProvider : TemplatedProvider := ⟨⟨"seam", by decide⟩, false, seamSettings.trimmed⟩

theorem ofSettings_seamSettings :
    TemplatedProvider.ofSettings seamProvider.identifier false seamSettings = .ok seamProvider := by
  have renders : seamSettings.trimmed.Renderable := by decide +kernel
  exact TemplatedProvider.ofSettings_of_renderable renders

/-- One name completes the version field, one brings it along, and one does neither. -/
theorem create_unversioned_seam :
    TemplatedSettings.decoder .toml seamTable = .ok seamSettings ∧ seamSettings.version = none ∧
      (create .templated seamProvider.identifier false seamTable).result = .ok (.templated seamProvider) ∧
      ∃ linux macos windows,
        seamProvider.distribution? .linuxX86_64 = some linux ∧ linux.Shows versionField ∧
        seamProvider.distribution? .macosAarch64 = some macos ∧ macos.Shows versionField ∧
        seamProvider.distribution? .windowsX86_64 = some windows ∧ ¬ windows.Shows versionField := by
  have read : TemplatedSettings.decoder .toml seamTable = .ok seamSettings := by rfl
  have made := create_templated_eq_ok_iff.2 ⟨_, _, read, ofSettings_seamSettings, rfl⟩
  have only : seamSettings.trimmed.templates = [seamSettings.trimmed.url] := rfl
  have listed (platform : Platform) (target : TemplatedTarget)
      (stored : seamSettings.platforms.get? platform = some target) :
      ∃ dist, seamProvider.distribution? platform = some dist ∧
        (dist.Shows versionField ↔
          LeavesVersion seamSettings.trimmed.url (target.name.getD platform.name)) := by
    obtain ⟨dist, found, -⟩ := TemplatedProvider.exists_distribution?_of_listed ofSettings_seamSettings stored
    obtain ⟨other, again, shows, -⟩ :=
      (create_unversioned seamProvider.identifier false read rfl).2 _ made platform dist found
    cases stored.symm.trans again
    simp only [only, List.mem_singleton, exists_eq_left] at shows
    exact ⟨dist, found, shows⟩
  obtain ⟨linux, onLinux, linuxShows⟩ := listed .linuxX86_64 _ rfl
  obtain ⟨macos, onMacos, macosShows⟩ := listed .macosAarch64 _ rfl
  obtain ⟨windows, onWindows, windowsShows⟩ := listed .windowsX86_64 _ rfl
  refine ⟨read, rfl, made, linux, macos, windows, onLinux, ?_, onMacos, ?_, onWindows, ?_⟩
  · rw [linuxShows]
    right
    refine ⟨some '\x7b', [some 'v', some 'e', some 'r'], none, ?_, ['\x7b'], "sion\x7d".toList, ?_, ?_, ?_⟩
    all_goals decide +kernel
  · rw [macosShows]
    left
    decide +kernel
  · rw [windowsShows, leavesVersion_iff]
    decide +kernel

/-- The provider is made without a version, and hands out a location that has the version field. -/
theorem create_seam_location :
    TemplatedSettings.decoder .toml seamTable = .ok seamSettings ∧ seamSettings.version = none ∧
      (create .templated seamProvider.identifier false seamTable).result = .ok (.templated seamProvider) ∧
      ∃ dist, seamProvider.distribution? .linuxX86_64 = some dist ∧
        dist.url = "u/\x7bversion\x7d.zip" ∧ dist.Shows versionField := by
  have read : TemplatedSettings.decoder .toml seamTable = .ok seamSettings := by rfl
  have made := create_templated_eq_ok_iff.2 ⟨_, _, read, ofSettings_seamSettings, rfl⟩
  have listed : seamProvider.settings.platforms.get? .linuxX86_64 = some ⟨some "sion\x7d", none⟩ := rfl
  obtain ⟨dist, found, url⟩ := TemplatedProvider.exists_distribution?_of_listed ofSettings_seamSettings listed
  have location : seamProvider.settings.location .linuxX86_64 ⟨some "sion\x7d", none⟩ =
      "u/\x7bversion\x7d.zip" := by decide +kernel
  replace url := url.trans location
  refine ⟨read, rfl, made, dist, found, url, .inl ?_⟩
  rw [url]
  decide +kernel

end Provider

end AppBundle
