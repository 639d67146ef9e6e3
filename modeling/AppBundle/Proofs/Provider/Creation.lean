import AppBundle.Proofs.Document.Record
import AppBundle.Proofs.Provider.Identity

/-! # When a provider can be made

A provider is made from a document exactly if the settings can be read from it and used. A table can be
used if each of its entries can; a template, if it passes its check and a file name is found for every
listed platform. What is rendered for a platform then depends on its location and that name.
-/

namespace AppBundle

open Document

variable {identifier : Identifier} {isLazy : Bool} {document : Json}

theorem Provider.ofDocument_eq_ok_iff {Settings Result : Type} {decoder : Decoder Settings}
    {ofSettings : Settings → Except SettingsFlaw Result} {result : Result} :
    ofDocument identifier decoder ofSettings document = .ok result ↔
      ∃ settings, decoder .toml document = .ok settings ∧ ofSettings settings = .ok result := by
  simp only [ofDocument, Except.bind_eq_ok_iff, Except.mapError_eq_ok_iff]

/-- A provider of one kind is what its settings are made into. -/
theorem Provider.map_ofDocument_eq_ok_iff {Settings Result : Type} {decoder : Decoder Settings}
    {ofSettings : Settings → Except SettingsFlaw Result} {wrap : Result → Provider} {provider : Provider} :
    (ofDocument identifier decoder ofSettings document).map wrap = .ok provider ↔
      ∃ settings result, decoder .toml document = .ok settings ∧ ofSettings settings = .ok result ∧
        wrap result = provider := by
  refine Except.map_eq_ok_iff.trans ?_
  simp only [ofDocument_eq_ok_iff, ← exists_and_right, and_assoc]
  exact exists_comm

/-- Settings that can be read are only judged by what they say. -/
theorem Provider.ofDocument_of_read {Settings Result : Type} {decoder : Decoder Settings}
    {ofSettings : Settings → Except SettingsFlaw Result} {settings : Settings}
    (read : decoder .toml document = .ok settings) :
    ofDocument identifier decoder ofSettings document =
      (ofSettings settings).mapError (.unusable identifier) := by
  rw [ofDocument, read]
  rfl

section Table

variable {settings : StaticSettings}

theorem StaticSettings.placeholders_part :
    record.Part 0 (.defaulted "placeholders" Distribution.subpaths .empty) placeholders :=
  .before fun _ => .last <| .pure fun _ => rfl

theorem StaticSettings.distributions_part : record.Part 1
    (.required "distributions" (map Platform.parse (StaticEntry.record.decoder "StaticEntry")))
      distributions :=
  .last <| .seq <| .pure fun _ _ => rfl

/-- The entries of settings are read from their field. -/
theorem StaticSettings.exists_distributions_of_read {fields : Fields}
    (read : record.read .toml 0 fields = .ok settings) :
    ∃ position document, fields.find? position "distributions" = some document ∧
      map Platform.parse (StaticEntry.record.decoder "StaticEntry") .toml document =
        .ok settings.distributions :=
  ⟨_, Record.exists_of_read_required (distributions_part.of_read read)⟩

theorem StaticProvider.ofSettings_eq_ok_iff {table : StaticProvider} :
    ofSettings identifier isLazy settings = .ok table ↔
      ∃ distributions, settings.distributions.mapM
        (StaticEntry.distribution identifier settings.placeholders) = .ok distributions ∧
          ⟨identifier, isLazy, distributions⟩ = table := by
  rw [ofSettings, bind_pure_comp, Except.map_eq_ok_iff]

/-- The distribution of a filled table is made from the entry for the platform. -/
theorem StaticProvider.distribution?_eq_some_iff {table : StaticProvider}
    (made : ofSettings identifier isLazy settings = .ok table) {platform : Platform}
    {dist : Distribution} :
    table.distribution? platform = some dist ↔
      ∃ entry, settings.distributions.get? platform = some entry ∧
        entry.distribution identifier settings.placeholders platform = .ok dist := by
  obtain ⟨distributions, filled, rfl⟩ := ofSettings_eq_ok_iff.1 made
  exact SortedMap.get?_of_mapM_eq_ok filled

theorem Provider.create_static_of_read (read : StaticSettings.decoder .toml document = .ok settings) :
    (create .static identifier isLazy document).result =
      ((StaticProvider.ofSettings identifier isLazy settings).mapError (.unusable identifier)).map
        .static := by
  rw [result_create, ofDocument_of_read read]

theorem Provider.create_static_eq_ok_iff {provider : Provider} :
    (create .static identifier isLazy document).result = .ok provider ↔
      ∃ settings table, StaticSettings.decoder .toml document = .ok settings ∧
        StaticProvider.ofSettings identifier isLazy settings = .ok table ∧ .static table = provider := by
  rw [result_create]
  exact map_ofDocument_eq_ok_iff

end Table

namespace TemplatedSettings

variable {settings : TemplatedSettings}

/-- The settings with the location that a provider uses. -/
def trimmed (settings : TemplatedSettings) : TemplatedSettings :=
  { settings with url := Text.trim settings.url }

/-- The location for a listed platform. -/
def location (settings : TemplatedSettings) (platform : Platform) (target : TemplatedTarget) : String :=
  settings.substitute settings.url (target.name.getD platform.name)

/-- The file name for a listed platform: the given one, filled in, or else that in the location. -/
def fileName? (settings : TemplatedSettings) (platform : Platform) (target : TemplatedTarget) :
    Option String :=
  (settings.fileName.map (settings.substitute · (target.name.getD platform.name))).or
    (Url.fileName? (settings.location platform target))

theorem render_of_absent {platform : Platform} (absent : settings.platforms.get? platform = none) :
    settings.render identifier platform = .ok none := by
  rw [render, absent]

/-- What is rendered for a listed platform. -/
theorem render_of_present {platform : Platform} {target : TemplatedTarget}
    (present : settings.platforms.get? platform = some target) :
    settings.render identifier platform =
      match settings.fileName? platform target with
      | none => .error (.noFileName platform (settings.location platform target))
      | some name =>
        .ok (some {
          id := identifier
          file := fetchedFile identifier name settings.fileType target.digest
          url := settings.location platform target
          placeholders := settings.placeholders }) := by
  rw [render, present]
  rfl

/-- Something can be rendered for a platform if there is a file name in case that it is listed. -/
theorem exists_render_iff {platform : Platform} :
    (∃ found, settings.render identifier platform = .ok found) ↔
      ∀ target, settings.platforms.get? platform = some target →
        (settings.fileName? platform target).isSome = true := by
  cases present : settings.platforms.get? platform with
  | none => simp [render_of_absent present]
  | some target =>
    rw [render_of_present present]
    cases named : settings.fileName? platform target <;> simp [named]

theorem render_eq_some_iff {platform : Platform} {dist : Distribution} :
    settings.render identifier platform = .ok (some dist) ↔
      ∃ target name, settings.platforms.get? platform = some target ∧
        settings.fileName? platform target = some name ∧
          dist = {
            id := identifier
            file := fetchedFile identifier name settings.fileType target.digest
            url := settings.location platform target
            placeholders := settings.placeholders } := by
  cases present : settings.platforms.get? platform with
  | none => simp [render_of_absent present]
  | some target =>
    rw [render_of_present present]
    cases named : settings.fileName? platform target <;> simp [named, eq_comm]

end TemplatedSettings

/-- What a template gives for a platform is filled in for the listed one. -/
theorem TemplatedProvider.distribution?_eq_some_iff {template : TemplatedProvider} {platform : Platform}
    {dist : Distribution} :
    template.distribution? platform = some dist ↔
      ∃ target name, template.settings.platforms.get? platform = some target ∧
        template.settings.fileName? platform target = some name ∧
          dist = {
            id := template.identifier
            file := fetchedFile template.identifier name template.settings.fileType target.digest
            url := template.settings.location platform target
            placeholders := template.settings.placeholders } := by
  rw [← TemplatedSettings.render_eq_some_iff]
  refine ⟨render_of_distribution?, fun rendered => ?_⟩
  rw [distribution?, rendered]

section Template

variable {settings : TemplatedSettings}

theorem TemplatedSettings.placeholders_part :
    record.Part 4 (.defaulted "placeholders" Distribution.subpaths .empty) placeholders :=
  .before fun _ => .last <| .seq <| .seq <| .seq <| .seq <| .pure fun _ _ _ _ _ => rfl

theorem TemplatedSettings.platforms_part : record.Part 5
    (.required "platforms" (map Platform.parse (target.decoder "TemplatedTarget"))) platforms :=
  .last <| .seq <| .seq <| .seq <| .seq <| .seq <| .pure fun _ _ _ _ _ _ => rfl

/-- What settings say about platforms is read from its field. -/
theorem TemplatedSettings.exists_platforms_of_read {fields : Fields}
    (read : record.read .toml 0 fields = .ok settings) :
    ∃ position document, fields.find? position "platforms" = some document ∧
      map Platform.parse (target.decoder "TemplatedTarget") .toml document = .ok settings.platforms :=
  ⟨_, Record.exists_of_read_required (platforms_part.of_read read)⟩

theorem TemplatedProvider.ofSettings_eq_ok_iff {template : TemplatedProvider} :
    ofSettings identifier isLazy settings = .ok template ↔
      settings.trimmed.check = .ok () ∧
        (∀ platform ∈ settings.platforms.keys,
          ∃ found, settings.trimmed.render identifier platform = .ok found) ∧
        ⟨identifier, isLazy, settings.trimmed⟩ = template := by
  refine Except.check_bind_eq_ok_iff.trans (and_congr Iff.rfl ?_)
  refine Except.check_bind_eq_ok_iff.trans (and_congr ?_ (iff_of_eq (Except.ok.injEq ..)))
  refine forM_eq_ok_iff.trans (forall₂_congr fun platform _ => ?_)
  exact Except.discard_eq_ok_iff

/-- A listed platform has a distribution at the location that is filled in for it. -/
theorem TemplatedProvider.exists_distribution?_of_listed
    {template : TemplatedProvider} (made : ofSettings identifier isLazy settings = .ok template)
    {platform : Platform} {target : TemplatedTarget}
    (listed : template.settings.platforms.get? platform = some target) :
    ∃ dist, template.distribution? platform = some dist ∧
      dist.url = template.settings.location platform target := by
  obtain ⟨-, renders, rfl⟩ := ofSettings_eq_ok_iff.1 made
  have rendered := renders platform (SortedMap.mem_keys_iff.2 ⟨target, listed⟩)
  obtain ⟨name, named⟩ := Option.isSome_iff_exists.1
    (TemplatedSettings.exists_render_iff.1 rendered target listed)
  exact ⟨_, distribution?_eq_some_iff.2 ⟨target, name, listed, named, rfl⟩, rfl⟩

theorem Provider.create_templated_of_read (read : TemplatedSettings.decoder .toml document = .ok settings) :
    (create .templated identifier isLazy document).result =
      ((TemplatedProvider.ofSettings identifier isLazy settings).mapError (.unusable identifier)).map
        .templated := by
  rw [result_create, ofDocument_of_read read]

theorem Provider.create_templated_eq_ok_iff {provider : Provider} :
    (create .templated identifier isLazy document).result = .ok provider ↔
      ∃ settings template, TemplatedSettings.decoder .toml document = .ok settings ∧
        TemplatedProvider.ofSettings identifier isLazy settings = .ok template ∧
        .templated template = provider := by
  rw [result_create]
  exact map_ofDocument_eq_ok_iff

end Template

theorem Provider.identifier_of_create {kind : ProviderKind} {provider : Provider}
    (made : (create kind identifier isLazy document).result = .ok provider) :
    provider.identifier = identifier := by
  cases kind with
  | static =>
    obtain ⟨settings, table, -, filled, rfl⟩ := create_static_eq_ok_iff.1 made
    obtain ⟨distributions, -, rfl⟩ := StaticProvider.ofSettings_eq_ok_iff.1 filled
    rfl
  | templated =>
    obtain ⟨settings, template, -, tried, rfl⟩ := create_templated_eq_ok_iff.1 made
    obtain ⟨-, -, rfl⟩ := TemplatedProvider.ofSettings_eq_ok_iff.1 tried
    rfl

end AppBundle
