import AppBundle.Proofs.Provider.Acceptance
import AppBundle.Proofs.Provider.Table

/-! # File names taken from locations

A listed platform without a file name of its own takes the name from its location. If the location is put
together from a scheme, an authority and a path, the name is the last segment of the path, and a path that ends
with a slash has none, so that the settings are refused. A location without a path is not refused: its last
slash is the one in front of the authority, which becomes the file name.
-/

namespace AppBundle

open Document

/-- A table takes the file name for a platform from a location. -/
def StaticSettings.NamesBy (settings : StaticSettings) (platform : Platform) (url : String) : Prop :=
  ∃ entry, settings.distributions.get? platform = some entry ∧ entry.name = none ∧ Text.trim entry.url = url

/-- A template takes the file name for a platform from a location. -/
def TemplatedSettings.NamesBy (settings : TemplatedSettings) (platform : Platform) (url : String) : Prop :=
  settings.fileName = none ∧
    ∃ target, settings.platforms.get? platform = some target ∧ settings.trimmed.location platform target = url

/-- A document can be read as settings of a kind that take the file name for a platform from a location. -/
def ProviderKind.NamesBy (kind : ProviderKind) (document : Json) (platform : Platform) (url : String) : Prop :=
  match kind with
  | .static => ∃ settings, StaticSettings.decoder .toml document = .ok settings ∧ settings.NamesBy platform url
  | .templated =>
    ∃ settings, TemplatedSettings.decoder .toml document = .ok settings ∧ settings.NamesBy platform url

variable {identifier : Identifier} {isLazy : Bool} {platform : Platform} {url : String} {dist : Distribution}

section Table

variable {settings : StaticSettings} {table : StaticProvider}

/-- What is handed out is named by its location. -/
theorem StaticProvider.exists_named_of_namesBy (names : settings.NamesBy platform url)
    (made : ofSettings identifier isLazy settings = .ok table) :
    ∃ dist, table.distribution? platform = some dist ∧ dist.url = url ∧
      Url.fileName? url = some dist.file.name := by
  obtain ⟨entry, listed, unnamed, rfl⟩ := names
  obtain ⟨dist, found, gives⟩ := exists_gives made listed
  refine ⟨dist, found, gives.url, ?_⟩
  have named := StaticEntry.named_iff.1 gives.name
  rwa [unnamed, Option.none_or] at named

theorem StaticProvider.fileName?_of_noFileName (names : settings.NamesBy platform url) {other : String}
    (failed : ofSettings identifier isLazy settings = .error (.noFileName platform other)) :
    Url.fileName? url = none := by
  obtain ⟨entry, listed, unnamed, rfl⟩ := names
  obtain ⟨least, first, unusable, flawed⟩ := ofSettings_eq_error_iff.1 failed
  cases flawed with
  | noFileName filled nameless =>
    cases listed.symm.trans unusable.present
    rw [Option.eq_none_iff_forall_ne_some]
    intro name found
    refine nameless name (StaticEntry.named_iff.2 ?_)
    rwa [unnamed, Option.none_or]

end Table

section Template

variable {settings : TemplatedSettings} {template : TemplatedProvider}

theorem TemplatedProvider.exists_named_of_namesBy (names : settings.NamesBy platform url)
    (made : ofSettings identifier isLazy settings = .ok template) :
    ∃ dist, template.distribution? platform = some dist ∧ dist.url = url ∧
      Url.fileName? url = some dist.file.name := by
  obtain ⟨unnamed, target, listed, rfl⟩ := names
  obtain ⟨-, -, rfl⟩ := ofSettings_eq_ok_iff.1 made
  obtain ⟨dist, found, -⟩ := exists_distribution?_of_listed made listed
  obtain ⟨_, name, again, named, rfl⟩ := distribution?_eq_some_iff.1 found
  cases listed.symm.trans again
  refine ⟨_, found, rfl, ?_⟩
  rwa [TemplatedSettings.fileName?, TemplatedSettings.trimmed, unnamed, Option.map_none, Option.none_or] at named

theorem TemplatedProvider.fileName?_of_noFileName (names : settings.NamesBy platform url) {other : String}
    (failed : ofSettings identifier isLazy settings = .error (.noFileName platform other)) :
    Url.fileName? url = none := by
  obtain ⟨-, target, listed, rfl⟩ := names
  cases ofSettings_eq_error_iff.1 failed with
  | noFileName _ _ _ _ least =>
    cases listed.symm.trans least.present
    rw [← Option.not_isSome_iff_eq_none, ← Url.exists_names_iff]
    exact least.holds

end Template

namespace Provider

variable {kind : ProviderKind} {document : Json}

/-- What becomes of settings that take the file name for a platform from a location, whichever kind they are
of. -/
theorem exists_made_of_namesBy (identifier : Identifier) (isLazy : Bool)
    (names : kind.NamesBy document platform url) :
    ∃ made : Except SettingsFlaw Provider,
      (create kind identifier isLazy document).result = made.mapError (.unusable identifier) ∧
      (∀ provider, made = .ok provider → ∃ dist, provider.distribution? platform = some dist ∧
        dist.url = url ∧ Url.fileName? url = some dist.file.name) ∧
      ∀ other, made = .error (.noFileName platform other) → Url.fileName? url = none := by
  cases kind with
  | static =>
    obtain ⟨settings, read, names⟩ := names
    refine ⟨static <$> StaticProvider.ofSettings identifier isLazy settings, ?_, ?_, ?_⟩
    · rw [create_static_of_read read]
      cases StaticProvider.ofSettings identifier isLazy settings <;> rfl
    · intro provider made
      obtain ⟨table, filled, rfl⟩ := Except.map_eq_ok_iff.1 made
      exact StaticProvider.exists_named_of_namesBy names filled
    · intro other failed
      exact StaticProvider.fileName?_of_noFileName names (Except.map_eq_error_iff.1 failed)
  | templated =>
    obtain ⟨settings, read, names⟩ := names
    refine ⟨templated <$> TemplatedProvider.ofSettings identifier isLazy settings, ?_, ?_, ?_⟩
    · rw [create_templated_of_read read]
      cases TemplatedProvider.ofSettings identifier isLazy settings <;> rfl
    · intro provider made
      obtain ⟨template, tried, rfl⟩ := Except.map_eq_ok_iff.1 made
      exact TemplatedProvider.exists_named_of_namesBy names tried
    · intro other failed
      exact TemplatedProvider.fileName?_of_noFileName names (Except.map_eq_error_iff.1 failed)

/-- The file name in a location that is put together from its parts is the last segment of the path, or the
authority if there is no path, and there is none exactly if the path ends with a slash. So settings of either
kind that take the name of a file from such a location are refused if its path ends with a slash; they are
refused for the missing name only then, and a provider that is made from them hands out the file under that
name. -/
theorem create_named_by_path (parts : Url.Parts) :
    (∀ name, Url.fileName? parts.text = some name ↔ name ≠ "" ∧ parts.Ends name) ∧
    (Url.fileName? parts.text = none ↔ ∃ front, parts.path = front ++ "/") ∧
    ∀ kind identifier isLazy document platform, ProviderKind.NamesBy kind document platform parts.text →
      let outcome := (create kind identifier isLazy document).result
      ((∃ front, parts.path = front ++ "/") → ∃ flaw, outcome = .error (.unusable identifier flaw)) ∧
      ((∃ url, outcome = .error (.unusable identifier (.noFileName platform url))) →
        ∃ front, parts.path = front ++ "/") ∧
      ∀ provider, outcome = .ok provider → ∃ dist, provider.distribution? platform = some dist ∧
        dist.url = parts.text ∧ parts.Ends dist.file.name := by
  refine ⟨fun name => Url.Parts.fileName?_text_eq_some_iff, Url.Parts.fileName?_text_eq_none_iff, ?_⟩
  intro kind identifier isLazy document platform names
  obtain ⟨made, outcome, named, nameless⟩ := exists_made_of_namesBy identifier isLazy names
  dsimp only
  rw [outcome]
  refine ⟨fun slash => ?_, ?_, fun provider passed => ?_⟩
  · cases made with
    | error flaw => exact ⟨flaw, rfl⟩
    | ok provider =>
      obtain ⟨dist, -, -, found⟩ := named provider rfl
      rw [Url.Parts.fileName?_text_eq_none_iff.2 slash] at found
      cases found
  · rintro ⟨url, failed⟩
    obtain ⟨_, cause, same⟩ := Except.mapError_eq_error_iff.1 failed
    cases same
    exact Url.Parts.fileName?_text_eq_none_iff.1 (nameless url cause)
  · obtain ⟨dist, found, location, name⟩ := named provider (Except.mapError_eq_ok_iff.1 passed)
    exact ⟨dist, found, location, (Url.Parts.fileName?_text_eq_some_iff.1 name).2⟩

/-- A location whose path ends with a slash, and whose query does not. -/
def folderParts : Url.Parts where
  scheme := "https"
  authority := "example.com"
  path := "/a/b/"
  rest := "?file=/c.zip#d/e"
  scheme_closed := by simp [Url.Closed]
  authority_closed := by simp [Url.Closed]
  path_begins := by simp
  path_inside := by simp
  rest_begins := by simp

/-- A table that takes a file name from a location. -/
def tableAt (url : String) : Json :=
  .object [("distributions", .object [("linux-x86_64", .object [("url", .string url)])])]

/-- The table as it is read. -/
def settingsAt (url : String) : StaticSettings where
  placeholders := .empty
  distributions := ⟨[(.linuxX86_64, ⟨url, none, none, none, .empty⟩)], List.pairwise_singleton _ _⟩

/-- No file name is taken from the query. -/
theorem create_folderTable :
    ProviderKind.NamesBy .static (tableAt folderParts.text) .linuxX86_64 folderParts.text ∧
      (∃ front, folderParts.path = front ++ "/") ∧
      ∃ flaw, (create .static ⟨"kit", by decide⟩ false (tableAt folderParts.text)).result =
        .error (.unusable ⟨"kit", by decide⟩ flaw) := by
  have trimmed : Text.trim folderParts.text = folderParts.text := by decide +kernel
  have names : ProviderKind.NamesBy .static (tableAt folderParts.text) .linuxX86_64 folderParts.text :=
    ⟨settingsAt folderParts.text, rfl, _, rfl, rfl, trimmed⟩
  have slash : ∃ front, folderParts.path = front ++ "/" := ⟨"/a/b", by decide⟩
  obtain ⟨-, -, outcome⟩ := create_named_by_path folderParts
  exact ⟨names, slash, (outcome .static ⟨"kit", by decide⟩ false _ _ names).1 slash⟩

/-- A location without a path. -/
def hostParts : Url.Parts where
  scheme := "https"
  authority := "example.com"
  path := ""
  rest := ""
  scheme_closed := by simp [Url.Closed]
  authority_closed := by simp [Url.Closed]
  path_begins := by simp
  path_inside := by simp
  rest_begins := by simp

/-- A location without a path is not refused, and its authority becomes the file name. -/
theorem create_hostTable :
    hostParts.text = "https://example.com" ∧ hostParts.path = "" ∧
      Url.fileName? hostParts.text = some "example.com" ∧
      ∃ provider dist,
        (create .static ⟨"kit", by decide⟩ false (tableAt "https://example.com")).result = .ok provider ∧
        provider.distribution? .linuxX86_64 = some dist ∧ dist.url = "https://example.com" ∧
        dist.file.name = "example.com" := by
  have text : hostParts.text = "https://example.com" := by decide +kernel
  have name : Url.fileName? "https://example.com" = some "example.com" := by decide +kernel
  have trimmed : Text.trim "https://example.com" = "https://example.com" := by decide +kernel
  have usable : ∀ entry ∈ (settingsAt "https://example.com").distributions.toList, entry.2.Usable := by
    decide +kernel
  obtain ⟨table, filled⟩ := StaticProvider.exists_ofSettings_iff.2 fun platform entry listed =>
    usable (platform, entry) ((SortedMap.get?_eq_some_iff _).1 listed)
  have read : StaticSettings.decoder .toml (tableAt "https://example.com") =
      .ok (settingsAt "https://example.com") := by rfl
  have made := create_static_eq_ok_iff.2 ⟨_, table, read, filled, rfl⟩
  have names : (settingsAt "https://example.com").NamesBy .linuxX86_64 "https://example.com" :=
    ⟨_, rfl, rfl, trimmed⟩
  obtain ⟨dist, found, url, named⟩ := StaticProvider.exists_named_of_namesBy names filled
  rw [name] at named
  exact ⟨text, rfl, text ▸ name, .static table, dist, made, found, url, (Option.some.inj named).symm⟩

end Provider

end AppBundle
