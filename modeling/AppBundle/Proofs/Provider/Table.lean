import AppBundle.Proofs.Provider.Creation
import AppBundle.Proofs.Text.Clean
import AppBundle.Proofs.Url

/-! # Tables of distributions

A table is used exactly if every entry has a location and a name for its file, given or taken from the
location; otherwise the entry of the least platform that lacks one is reported. Each distribution is then made
from the entry for its platform and from what all entries share, so that no entry shows in the distribution
of another platform.
-/

namespace AppBundle

open Document

namespace StaticEntry

/-- The name of the file of an entry: the given one, or else that in the location. -/
def Named (entry : StaticEntry) (name : String) : Prop :=
  entry.name = some name ∨ entry.name = none ∧ Url.Names (Text.trim entry.url) name

/-- A distribution can be made from an entry. -/
def Usable (entry : StaticEntry) : Prop := Text.trim entry.url ≠ "" ∧ ∃ name, entry.Named name

/-- What is wrong with an entry for a platform. -/
inductive Flawed (entry : StaticEntry) (platform : Platform) : SettingsFlaw → Prop where
  | emptyUrl (blank : Text.trim entry.url = "") : Flawed entry platform (.emptyUrl (some platform))
  | noFileName (filled : Text.trim entry.url ≠ "") (unnamed : ∀ name, ¬ entry.Named name) :
    Flawed entry platform (.noFileName platform (Text.trim entry.url))

/-- A distribution is what an entry says, together with the subpaths that all entries share. -/
structure Gives (entry : StaticEntry) (identifier : Identifier) (shared : SortedMap Identifier String)
    (dist : Distribution) : Prop where
  id : dist.id = identifier
  url : dist.url = Text.trim entry.url
  name : entry.Named dist.file.name
  key : dist.file.key = some identifier.text
  digest : dist.file.digest = entry.digest
  fileType : dist.file.fileType = entry.fileType.or (FileType.infer? dist.file.name)
  isExecutable : dist.file.isExecutable = false
  eagerExtract : dist.file.eagerExtract = false
  source : dist.file.source = some .fetch
  placeholders : ∀ key, dist.placeholders.get? key = (entry.placeholders.get? key).or (shared.get? key)

variable {entry : StaticEntry} {identifier : Identifier} {shared : SortedMap Identifier String}
  {platform : Platform} {dist : Distribution} {name : String}

theorem named_iff :
    entry.Named name ↔ entry.name.or (Url.fileName? (Text.trim entry.url)) = some name := by
  rw [Named, Option.or_eq_some_iff, Url.fileName?_eq_some_iff]

theorem usable_iff :
    entry.Usable ↔ Text.trim entry.url ≠ "" ∧
      (entry.name.or (Url.fileName? (Text.trim entry.url))).isSome = true := by
  rw [Usable, Option.isSome_iff_exists]
  simp only [named_iff]

instance (entry : StaticEntry) : Decidable entry.Usable := decidable_of_iff' _ usable_iff

/-- The subpaths of an entry hide shared ones of the same name. -/
theorem get?_insertMany_shared (entry : StaticEntry) (shared : SortedMap Identifier String)
    (key : Identifier) :
    (shared.insertMany entry.placeholders.toList).get? key =
      (entry.placeholders.get? key).or (shared.get? key) := by
  rw [SortedMap.get?_insertMany, SortedMap.lookup_reverse_toList]

/-- What an entry says leaves no choice. -/
theorem Gives.eq (gives : entry.Gives identifier shared dist)
    (named : entry.name.or (Url.fileName? (Text.trim entry.url)) = some name) :
    dist = {
      id := identifier
      file := fetchedFile identifier name entry.fileType entry.digest
      url := Text.trim entry.url
      placeholders := shared.insertMany entry.placeholders.toList } := by
  obtain rfl : dist.file.name = name :=
    Option.some.inj ((named_iff.1 gives.name).symm.trans named)
  have subpaths : dist.placeholders = shared.insertMany entry.placeholders.toList := by
    apply SortedMap.ext_get?
    intro key
    rw [gives.placeholders, get?_insertMany_shared]
  obtain ⟨_, ⟨_, _, _, _, _, _, _⟩, _, _⟩ := dist
  simp only [fetchedFile, File.ofName, Distribution.mk.injEq, File.mk.injEq, true_and]
  exact ⟨gives.id, ⟨gives.key, gives.digest, gives.fileType, gives.isExecutable, gives.eagerExtract,
    gives.source⟩, gives.url, subpaths⟩

/-- An entry gives a distribution if it has a location, and a name for the file. -/
theorem distribution_eq_ok_iff :
    entry.distribution identifier shared platform = .ok dist ↔
      Text.trim entry.url ≠ "" ∧ entry.Gives identifier shared dist := by
  unfold distribution
  dsimp only
  split
  · next blank =>
    apply iff_of_false
    · intro given
      cases given
    · rintro ⟨filled, -⟩
      exact filled (String.isEmpty_iff.1 blank)
  · next filled =>
    have filled : Text.trim entry.url ≠ "" := mt String.isEmpty_iff.2 filled
    rw [and_iff_right filled]
    split
    · next unnamed =>
      apply iff_of_false
      · intro given
        cases given
      · intro gives
        cases unnamed.symm.trans (named_iff.1 gives.name)
    · next name named =>
      have gives : entry.Gives identifier shared
          { id := identifier
            file := fetchedFile identifier name entry.fileType entry.digest
            url := Text.trim entry.url
            placeholders := shared.insertMany entry.placeholders.toList } :=
        ⟨rfl, rfl, named_iff.2 named, rfl, rfl, rfl, rfl, rfl, rfl, get?_insertMany_shared entry shared⟩
      rw [Except.ok.injEq]
      constructor
      · rintro rfl
        exact gives
      · exact fun other => (other.eq named).symm

theorem distribution_eq_error_iff {flaw : SettingsFlaw} :
    entry.distribution identifier shared platform = .error flaw ↔ entry.Flawed platform flaw := by
  unfold distribution
  dsimp only
  constructor
  · intro failed
    split at failed
    · next blank =>
      cases failed
      exact .emptyUrl (String.isEmpty_iff.1 blank)
    · next filled =>
      split at failed
      · next unnamed =>
        cases failed
        refine .noFileName (mt String.isEmpty_iff.2 filled) fun name named => ?_
        cases unnamed.symm.trans (named_iff.1 named)
      · cases failed
  · intro flawed
    cases flawed with
    | emptyUrl blank => rw [blank]; rfl
    | noFileName filled unnamed =>
      have none : entry.name.or (Url.fileName? (Text.trim entry.url)) = none := by
        apply Option.eq_none_iff_forall_ne_some.2
        intro name named
        exact unnamed name (named_iff.2 named)
      rw [if_neg (mt String.isEmpty_iff.1 filled), none]

/-- Something is wrong with an entry exactly if it can not be used. -/
theorem exists_flawed_iff : (∃ flaw, entry.Flawed platform flaw) ↔ ¬ entry.Usable := by
  constructor
  · rintro ⟨_, blank | ⟨_, unnamed⟩⟩ ⟨filled, name, named⟩
    · exact filled blank
    · exact unnamed name named
  · intro unusable
    by_cases blank : Text.trim entry.url = ""
    · exact ⟨_, .emptyUrl blank⟩
    · refine ⟨_, .noFileName blank ?_⟩
      intro name named
      exact unusable ⟨blank, name, named⟩

theorem exists_distribution_iff :
    (∃ dist, entry.distribution identifier shared platform = .ok dist) ↔ entry.Usable := by
  rw [Except.exists_eq_ok_iff, ← not_exists]
  simp only [distribution_eq_error_iff, exists_flawed_iff, not_not]

end StaticEntry

namespace StaticProvider

variable {identifier : Identifier} {isLazy : Bool} {settings : StaticSettings}

/-- A table is refused for what is wrong with the entry of the least platform that can not be used. -/
theorem ofSettings_eq_error_iff {flaw : SettingsFlaw} :
    ofSettings identifier isLazy settings = .error flaw ↔
      ∃ platform entry, settings.distributions.LeastWith (fun _ entry => ¬ entry.Usable) platform entry ∧
        entry.Flawed platform flaw := by
  rw [ofSettings, bind_pure_comp, Except.map_eq_error_iff, SortedMap.mapM_eq_error_iff]
  simp only [StaticEntry.distribution_eq_error_iff, StaticEntry.exists_flawed_iff]

theorem exists_ofSettings_iff :
    (∃ table, ofSettings identifier isLazy settings = .ok table) ↔
      ∀ platform entry, settings.distributions.get? platform = some entry → entry.Usable := by
  have filled : (∃ table, ofSettings identifier isLazy settings = .ok table) ↔
      ∃ distributions, settings.distributions.mapM
        (StaticEntry.distribution identifier settings.placeholders) = .ok distributions := by
    simp only [ofSettings_eq_ok_iff]
    exact ⟨fun ⟨_, distributions, made, _⟩ => ⟨distributions, made⟩,
      fun ⟨distributions, made⟩ => ⟨_, distributions, made, rfl⟩⟩
  rw [filled, SortedMap.exists_mapM_eq_ok_iff]
  simp only [Prod.forall, StaticEntry.exists_distribution_iff, SortedMap.get?_eq_some_iff]

variable {table : StaticProvider} {platform : Platform}

/-- A table has what its settings say for a platform. -/
theorem exists_gives (made : ofSettings identifier isLazy settings = .ok table) {entry : StaticEntry}
    (listed : settings.distributions.get? platform = some entry) :
    ∃ dist, table.distribution? platform = some dist ∧
      entry.Gives identifier settings.placeholders dist := by
  have usable := exists_ofSettings_iff.1 ⟨table, made⟩ platform entry listed
  obtain ⟨dist, given⟩ := StaticEntry.exists_distribution_iff.2 usable
  refine ⟨dist, (distribution?_eq_some_iff made).2 ⟨entry, listed, given⟩, ?_⟩
  exact (StaticEntry.distribution_eq_ok_iff.1 given).2

/-- Only what is shared and the entry for a platform show in its distribution. -/
theorem distribution?_congr {other : StaticSettings} {otherLazy : Bool} {otherTable : StaticProvider}
    (made : ofSettings identifier isLazy settings = .ok table)
    (otherMade : ofSettings identifier otherLazy other = .ok otherTable)
    (shared : other.placeholders = settings.placeholders)
    (entry : other.distributions.get? platform = settings.distributions.get? platform) :
    otherTable.distribution? platform = table.distribution? platform := by
  apply Option.ext
  intro dist
  rw [distribution?_eq_some_iff made, distribution?_eq_some_iff otherMade, shared, entry]

theorem distribution?_of_unlisted (made : ofSettings identifier isLazy settings = .ok table)
    (unlisted : settings.distributions.get? platform = none) : table.distribution? platform = none := by
  apply Option.eq_none_iff_forall_ne_some.2
  intro dist found
  obtain ⟨entry, listed, -⟩ := (distribution?_eq_some_iff made).1 found
  cases unlisted.symm.trans listed

end StaticProvider

namespace Provider

variable {identifier : Identifier} {isLazy : Bool} {document : Json} {settings : StaticSettings}

/-- What becomes of settings that are read as a table. They are used exactly if every entry has a location and
a name for its file, and otherwise refused for the entry of the least platform that lacks one. A provider that
is made from them has for each listed platform what the entry says, with subpaths of the entry before shared
ones, and nothing for any other platform. Settings that share the same subpaths and have the same entry for a
platform give the same distribution there, whatever their other entries are. -/
theorem create_static_outcome (identifier : Identifier) (isLazy : Bool)
    (read : StaticSettings.decoder .toml document = .ok settings) :
    let outcome := (create .static identifier isLazy document).result
    ((∃ provider, outcome = .ok provider) ↔
      ∀ platform entry, settings.distributions.get? platform = some entry → entry.Usable) ∧
    (∀ error, outcome = .error error ↔
      ∃ platform entry flaw,
        settings.distributions.LeastWith (fun _ entry => ¬ entry.Usable) platform entry ∧
          entry.Flawed platform flaw ∧ error = .unusable identifier flaw) ∧
    ∀ provider, outcome = .ok provider → ∀ platform,
      (∀ entry, settings.distributions.get? platform = some entry →
        ∃ dist, provider.distribution? platform = some dist ∧
          entry.Gives identifier settings.placeholders dist) ∧
      (settings.distributions.get? platform = none → provider.distribution? platform = none) ∧
      ∀ otherDocument other otherLazy otherProvider,
        StaticSettings.decoder .toml otherDocument = .ok other →
        (create .static identifier otherLazy otherDocument).result = .ok otherProvider →
        other.placeholders = settings.placeholders →
        other.distributions.get? platform = settings.distributions.get? platform →
          otherProvider.distribution? platform = provider.distribution? platform := by
  dsimp only
  rw [create_static_of_read read]
  refine ⟨?_, fun error => ?_, fun provider made platform => ?_⟩
  · rw [Except.exists_map_mapError_eq_ok_iff, StaticProvider.exists_ofSettings_iff]
  · rw [Except.map_mapError_eq_error_iff]
    simp only [StaticProvider.ofSettings_eq_error_iff]
    constructor
    · rintro ⟨flaw, ⟨platform, entry, least, flawed⟩, rfl⟩
      exact ⟨platform, entry, flaw, least, flawed, rfl⟩
    · rintro ⟨platform, entry, flaw, least, flawed, rfl⟩
      exact ⟨flaw, ⟨platform, entry, least, flawed⟩, rfl⟩
  · obtain ⟨table, filled, rfl⟩ := Except.map_mapError_eq_ok_iff.1 made
    refine ⟨fun entry => StaticProvider.exists_gives filled, ?_, ?_⟩
    · exact StaticProvider.distribution?_of_unlisted filled
    · intro otherDocument other otherLazy otherProvider otherRead otherMade shared entry
      rw [create_static_of_read otherRead] at otherMade
      obtain ⟨otherTable, otherFilled, rfl⟩ := Except.map_mapError_eq_ok_iff.1 otherMade
      exact StaticProvider.distribution?_congr filled otherFilled shared entry

/-- Settings for two platforms, the earlier of which has a subpath of its own in the place of a shared one. -/
def runtimeTable (windowsUrl : String) : Json :=
  .object [
    ("placeholders", .object [("home", .string "lib"), ("run", .string "bin/run")]),
    ("distributions", .object [
      ("windows-x86_64", .object [("url", .string windowsUrl), ("name", .string "w.zip")]),
      ("linux-x86_64", .object [
        ("url", .string " u/run.tar.gz?sig=a/b "),
        ("placeholders", .object [("run", .string "run.sh")])])])]

/-- The settings as they are read. -/
def runtimeSettings (windowsUrl : String) : StaticSettings where
  placeholders := ⟨[(⟨"home", by decide⟩, "lib"), (⟨"run", by decide⟩, "bin/run")], by decide⟩
  distributions := ⟨[
      (.linuxX86_64, {
        url := " u/run.tar.gz?sig=a/b "
        name := none
        fileType := none
        digest := none
        placeholders := ⟨[(⟨"run", by decide⟩, "run.sh")], by decide⟩ }),
      (.windowsX86_64, ⟨windowsUrl, some "w.zip", none, none, .empty⟩)],
    List.pairwise_pair.2 rfl⟩

/-- The subpath of the earlier platform does not reach the later one, and the location of the later one has no
effect on the earlier one. -/
theorem create_static_runtime :
    StaticSettings.decoder .toml (runtimeTable "u/?id=7") = .ok (runtimeSettings "u/?id=7") ∧
      ∃ provider other linux windows,
        (create .static ⟨"tool", by decide⟩ false (runtimeTable "u/?id=7")).result = .ok provider ∧
        (create .static ⟨"tool", by decide⟩ true (runtimeTable "v")).result = .ok other ∧
        provider.distribution? .linuxX86_64 = some linux ∧
        other.distribution? .linuxX86_64 = some linux ∧
        provider.distribution? .windowsX86_64 = some windows ∧
        provider.distribution? .macosX86_64 = none ∧
        linux.placeholders.get? ⟨"run", by decide⟩ = some "run.sh" ∧
        windows.placeholders.get? ⟨"run", by decide⟩ = some "bin/run" := by
  have read : StaticSettings.decoder .toml (runtimeTable "u/?id=7") = .ok (runtimeSettings "u/?id=7") := by rfl
  have otherRead : StaticSettings.decoder .toml (runtimeTable "v") = .ok (runtimeSettings "v") := by rfl
  have usable : ∀ entry ∈ (runtimeSettings "u/?id=7").distributions.toList, entry.2.Usable := by
    decide +kernel
  have otherUsable : ∀ entry ∈ (runtimeSettings "v").distributions.toList, entry.2.Usable := by
    decide +kernel
  obtain ⟨accepted, -, given⟩ := create_static_outcome ⟨"tool", by decide⟩ false read
  obtain ⟨otherAccepted, -, -⟩ := create_static_outcome ⟨"tool", by decide⟩ true otherRead
  obtain ⟨provider, made⟩ := accepted.2 fun platform entry listed =>
    usable (platform, entry) ((SortedMap.get?_eq_some_iff _).1 listed)
  obtain ⟨other, otherMade⟩ := otherAccepted.2 fun platform entry listed =>
    otherUsable (platform, entry) ((SortedMap.get?_eq_some_iff _).1 listed)
  obtain ⟨onLinux, -, same⟩ := given provider made .linuxX86_64
  obtain ⟨onWindows, -, -⟩ := given provider made .windowsX86_64
  obtain ⟨-, onMacos, -⟩ := given provider made .macosX86_64
  obtain ⟨linux, linuxFound, linuxSays⟩ := onLinux _ rfl
  obtain ⟨windows, windowsFound, windowsSays⟩ := onWindows _ rfl
  have otherFound := (same _ _ true other otherRead otherMade rfl rfl).trans linuxFound
  refine ⟨read, provider, other, linux, windows, made, otherMade, linuxFound, otherFound, windowsFound,
    onMacos rfl, ?_, ?_⟩
  · rw [linuxSays.placeholders]
    rfl
  · rw [windowsSays.placeholders]
    rfl

end Provider

end AppBundle
