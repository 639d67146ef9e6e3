import AppBundle.Provider.Basic
import AppBundle.Proofs.Collection

/-! # The identity of provided distributions

Whatever kind of provider is made from settings, each of its distributions carries the identifier of the
provider, and the file of the distribution carries it as its key. A table is filled when the provider is
made, and a template is filled in when a distribution is asked for.
-/

namespace AppBundle

/-- A distribution and its file go by an identifier, and the file is downloaded. -/
structure Distribution.Carries (dist : Distribution) (identifier : Identifier) : Prop where
  id : dist.id = identifier
  fileId : dist.file.id = identifier.text
  source : dist.file.source = some .fetch

variable {identifier : Identifier} {platform : Platform} {dist : Distribution}

/-- What an entry gives, whatever its file is called. -/
theorem StaticEntry.exists_of_distribution {shared : SortedMap Identifier String} {entry : StaticEntry}
    (made : entry.distribution identifier shared platform = .ok dist) :
    ∃ name, dist = {
      id := identifier
      file := fetchedFile identifier name entry.fileType entry.digest
      url := Text.trim entry.url
      placeholders := shared.insertMany entry.placeholders.toList } := by
  unfold distribution at made
  dsimp only at made
  split at made
  · cases made
  · split at made
    · cases made
    · next name _ => exact ⟨name, (Except.ok.inj made).symm⟩

/-- What is rendered, whatever its location and its file are called. -/
theorem TemplatedSettings.exists_of_render {settings : TemplatedSettings}
    (made : settings.render identifier platform = .ok (some dist)) :
    ∃ name url digest, dist = {
      id := identifier
      file := fetchedFile identifier name settings.fileType digest
      url
      placeholders := settings.placeholders } := by
  unfold render at made
  split at made
  · cases made
  · dsimp only at made
    split at made
    · cases made
    · cases made
      exact ⟨_, _, _, rfl⟩

theorem TemplatedProvider.render_of_distribution? {provider : TemplatedProvider}
    (present : provider.distribution? platform = some dist) :
    provider.settings.render provider.identifier platform = .ok (some dist) := by
  unfold distribution? at present
  split at present
  · next made => exact made.trans (congrArg _ present)
  · cases present

theorem StaticEntry.carries_of_distribution {shared : SortedMap Identifier String}
    {entry : StaticEntry} (made : entry.distribution identifier shared platform = .ok dist) :
    dist.Carries identifier := by
  obtain ⟨_, rfl⟩ := exists_of_distribution made
  exact ⟨rfl, rfl, rfl⟩

theorem StaticProvider.carries_of_ofSettings {isLazy : Bool} {settings : StaticSettings}
    {provider : StaticProvider} (made : ofSettings identifier isLazy settings = .ok provider)
    (present : provider.distribution? platform = some dist) : dist.Carries provider.identifier := by
  rw [ofSettings, bind_pure_comp, Except.map_eq_ok_iff] at made
  obtain ⟨distributions, filled, rfl⟩ := made
  have member : (platform, dist) ∈ distributions.toList := (SortedMap.get?_eq_some_iff _).1 present
  obtain ⟨_, -, -, made⟩ := exists_mem_of_forall₂ (SortedMap.forall₂_of_mapM_eq_ok filled) member
  exact StaticEntry.carries_of_distribution made

theorem TemplatedProvider.carries_of_distribution? {provider : TemplatedProvider}
    (present : provider.distribution? platform = some dist) : dist.Carries provider.identifier := by
  obtain ⟨_, _, _, rfl⟩ := TemplatedSettings.exists_of_render (render_of_distribution? present)
  exact ⟨rfl, rfl, rfl⟩

namespace Provider

/-- A provider is made from settings of either kind. -/
def Created (provider : Provider) : Prop :=
  ∃ kind identifier isLazy settings, (create kind identifier isLazy settings).result = .ok provider

theorem result_create (kind : ProviderKind) (isLazy : Bool) (settings : Json) :
    (create kind identifier isLazy settings).result =
      match kind with
      | .static => (ofDocument identifier StaticSettings.decoder
          (StaticProvider.ofSettings identifier isLazy) settings).map static
      | .templated => (ofDocument identifier TemplatedSettings.decoder
          (TemplatedProvider.ofSettings identifier isLazy) settings).map templated := by
  cases kind <;>
    simp only [create, Logged.result_bind, Logged.result_emit, Except.ok_bind, Logged.result_ofExcept]

/-- Every distribution of a provider that was made from settings goes by the identifier of the
provider. -/
theorem Created.carries {provider : Provider} (created : provider.Created)
    (present : provider.distribution? platform = some dist) : dist.Carries provider.identifier := by
  obtain ⟨kind, identifier, isLazy, settings, made⟩ := created
  rw [result_create] at made
  cases kind with
  | static =>
    obtain ⟨read, decoded, rfl⟩ := Except.map_eq_ok_iff.1 made
    obtain ⟨settings, -, filled⟩ := Except.bind_eq_ok_iff.1 decoded
    exact StaticProvider.carries_of_ofSettings (Except.mapError_eq_ok_iff.1 filled) present
  | templated =>
    obtain ⟨read, -, rfl⟩ := Except.map_eq_ok_iff.1 made
    exact TemplatedProvider.carries_of_distribution? present

end Provider

end AppBundle
