import AppBundle.Proofs.Provider.Acceptance
import AppBundle.Proofs.Provider.Agreement
import AppBundle.Proofs.Provider.Template

/-! # The locations of different platforms

A template with a platform field is filled in differently for different names: the lengths of the locations
tell the lengths of the names apart, and names of the same length stand at the same place of their locations.
A provider with several platforms has such a template. Where only fields have opening braces, two of its
platforms share a location exactly if they go by the same name.
-/

namespace AppBundle

namespace TemplatePart

variable {parts : List TemplatePart} {left right : String} {version : Option String}

/-- Only the platform field depends on the name. -/
theorem fill_eq_of_ne {part : TemplatePart} (other : part ≠ .field .platform) (left right : String)
    (version : Option String) : fill left version part = fill right version part := by
  rw [fill_eq_ite, fill_eq_ite, if_neg other, if_neg other]

/-- Every platform field makes the filled in template longer by the length of the name. -/
theorem length_flatMap_fill (parts : List TemplatePart) (name : String) (version : Option String) :
    (parts.flatMap (fill name version)).length =
      parts.count (.field .platform) * name.length + (parts.flatMap (fill "" version)).length := by
  induction parts with
  | nil => simp
  | cons part rest ih =>
    rw [List.flatMap_cons, List.flatMap_cons, List.length_append, List.length_append, ih]
    by_cases named : part = .field .platform
    · subst named
      have filled : (fill name version (.field .platform)).length = name.length := String.length_toList
      have empty : (fill "" version (.field .platform)).length = 0 := rfl
      rw [List.count_cons_self, filled, empty, Nat.add_one_mul]
      omega
    · rw [List.count_cons_of_ne named, fill_eq_of_ne named name ""]
      omega

/-- Names of the same length are told apart at the first platform field. -/
theorem eq_of_flatMap_fill_eq (used : .field .platform ∈ parts) (lengths : left.length = right.length)
    (same : parts.flatMap (fill left version) = parts.flatMap (fill right version)) : left = right := by
  induction parts with
  | nil => cases used
  | cons part rest ih =>
    rw [List.flatMap_cons, List.flatMap_cons] at same
    by_cases named : part = .field .platform
    · subst named
      have sizes : left.toList.length = right.toList.length := lengths
      exact String.toList_inj.1 (List.append_inj same sizes).1
    · rw [fill_eq_of_ne named left right] at same
      exact ih (List.mem_of_ne_of_mem (Ne.symm named) used) (List.append_cancel_left same)

/-- A template with a platform field is filled in differently for different names. -/
theorem flatMap_fill_inj (used : .field .platform ∈ parts) :
    parts.flatMap (fill left version) = parts.flatMap (fill right version) ↔ left = right := by
  constructor
  · intro same
    have lengths := congrArg List.length same
    rw [length_flatMap_fill parts left, length_flatMap_fill parts right] at lengths
    have positive : 0 < parts.count (.field .platform) := List.count_pos_iff.2 used
    exact eq_of_flatMap_fill_eq used (Nat.eq_of_mul_eq_mul_left positive (by omega)) same
  · rintro rfl
    rfl

theorem infix_of_infix_append {mark : Char} {body front rest : List Char} (absent : mark ∉ front)
    (occurs : mark :: body <:+: front ++ rest) : mark :: body <:+: rest := by
  induction front with
  | nil => exact occurs
  | cons char front ih =>
    rw [List.mem_cons, not_or] at absent
    rcases List.infix_cons_iff.1 occurs with begins | behind
    · exact absurd (List.cons_prefix_cons.1 begins).1 absent.1
    · exact ih absent.2 behind

/-- A field that occurs in a text is one of its parts. -/
theorem field_mem_split {text : List Char} {field : TemplateField} (occurs : field.chars <:+: text) :
    .field field ∈ split text := by
  fun_induction split text with
  | case1 => exact absurd (List.infix_nil.1 occurs) field.chars_ne_nil
  | case2 char rest name found ih =>
    by_cases same : field = name
    · rw [same]
      exact List.mem_cons_self ..
    · refine List.mem_cons_of_mem _ (ih ?_)
      rw [cons_eq_of_atFront? found] at occurs
      generalize rest.drop (name.chars.length - 1) = behind at occurs
      -- No field begins in another one, neither at its front nor further inside.
      obtain ⟨body, opens, closed⟩ := name.exists_chars_eq
      obtain ⟨tail, mark, -⟩ := field.exists_chars_eq
      have other : ¬ field.chars <+: name.chars ++ behind := fun begins =>
        same (TemplateField.chars_prefix_append_iff.1 begins)
      rw [mark, opens, List.cons_append] at other occurs
      rw [mark]
      exact infix_of_infix_append closed ((List.infix_cons_iff.1 occurs).resolve_left other)
  | case3 char rest found ih =>
    have other : ¬ field.chars <+: char :: rest := fun begins => by
      cases found.symm.trans (TemplateField.atFront?_eq_some_iff.2 begins)
    exact List.mem_cons_of_mem _ (ih ((List.infix_cons_iff.1 occurs).resolve_left other))

end TemplatePart

variable {identifier : Identifier} {isLazy : Bool} {settings : TemplatedSettings}
  {template : TemplatedProvider}

/-- Settings for several platforms pass the check only with a platform field in the location. -/
theorem TemplatedSettings.platformField_infix_of_check (passed : settings.check = .ok ())
    (several : 2 ≤ settings.platforms.size) : platformField.toList <:+: settings.url.toList := by
  obtain ⟨-, apart, -⟩ := check_eq_ok_iff.1 passed
  exact apart.resolve_left (Nat.not_le.2 several)

namespace Provider

/-- Two platforms of a provider with several platforms share a location exactly if they go by the same name,
provided that every opening brace of the template begins a field and the names have no opening brace. -/
theorem create_locations_eq_iff {document : Json}
    (made : (create .templated identifier isLazy document).result = .ok (.templated template))
    (several : 2 ≤ template.supportedPlatforms.length)
    (opens : TemplateField.Opens template.settings.url.toList)
    (closed : ∀ platform target, template.settings.platforms.get? platform = some target →
      '{' ∉ (target.name.getD platform.name).toList)
    {first second : Platform} {firstTarget secondTarget : TemplatedTarget}
    (firstListed : template.settings.platforms.get? first = some firstTarget)
    (secondListed : template.settings.platforms.get? second = some secondTarget) :
    ∃ firstDist secondDist, template.distribution? first = some firstDist ∧
      template.distribution? second = some secondDist ∧
      (firstDist.url = secondDist.url ↔
        firstTarget.name.getD first.name = secondTarget.name.getD second.name) := by
  obtain ⟨settings, _, -, tried, same⟩ := create_templated_eq_ok_iff.1 made
  cases same
  obtain ⟨firstDist, firstFound, firstUrl⟩ :=
    TemplatedProvider.exists_distribution?_of_listed tried firstListed
  obtain ⟨secondDist, secondFound, secondUrl⟩ :=
    TemplatedProvider.exists_distribution?_of_listed tried secondListed
  have used : .field .platform ∈ TemplatePart.split template.settings.url.toList := by
    obtain ⟨passed, -, rfl⟩ := TemplatedProvider.ofSettings_eq_ok_iff.1 tried
    apply TemplatePart.field_mem_split
    apply TemplatedSettings.platformField_infix_of_check passed
    exact several.trans_eq (List.length_map _)
  have plain := TemplatePart.literal_notMem_split opens
  have written := TemplatePart.write_split template.settings.url.toList
  refine ⟨firstDist, secondDist, firstFound, secondFound, ?_⟩
  rw [firstUrl, secondUrl, TemplatedSettings.location, TemplatedSettings.location,
    TemplatedSettings.substitute_eq_of_write _ plain written (closed _ _ firstListed),
    TemplatedSettings.substitute_eq_of_write _ plain written (closed _ _ secondListed),
    String.ofList_inj]
  exact TemplatePart.flatMap_fill_inj used

/-- Settings for three platforms, two of which go by one name. The other name begins with this one and with
the text behind it in the location. -/
def namesakes : TemplatedSettings where
  url := "u/\x7bplatform\x7d-\x7bplatform\x7d.zip"
  version := none
  fileName := none
  fileType := none
  placeholders := .empty
  platforms := ⟨[(.linuxX86_64, ⟨some "a", none⟩), (.macosAarch64, ⟨some "a", none⟩),
    (.windowsX86_64, ⟨some "a-a", none⟩)], by decide⟩

/-- The document of the settings. -/
def namesakesTable : Json :=
  .object [
    ("url", .string "u/\x7bplatform\x7d-\x7bplatform\x7d.zip"),
    ("platforms", .object [
      ("linux-x86_64", .object [("name", .string "a")]),
      ("macos-aarch64", .object [("name", .string "a")]),
      ("windows-x86_64", .object [("name", .string "a-a")])])]

/-- The provider that is made from the settings. -/
def namesakesProvider : TemplatedProvider := ⟨⟨"kit", by decide⟩, false, namesakes⟩

theorem create_namesakesProvider :
    (create .templated namesakesProvider.identifier false namesakesTable).result =
      .ok (.templated namesakesProvider) := by
  have read : TemplatedSettings.decoder .toml namesakesTable = .ok namesakes := by rfl
  have trimmed : namesakes.trimmed = namesakes := by
    have url : Text.trim namesakes.url = namesakes.url := by decide +kernel
    rw [TemplatedSettings.trimmed, url]
  have renders : namesakes.trimmed.Renderable := by decide +kernel
  have filled : TemplatedProvider.ofSettings namesakesProvider.identifier false namesakes =
      .ok ⟨_, _, namesakes.trimmed⟩ := TemplatedProvider.ofSettings_of_renderable renders
  rw [trimmed] at filled
  exact create_templated_eq_ok_iff.2 ⟨_, _, read, filled, rfl⟩

/-- The two platforms of one name share a location, and the third one has another. -/
theorem create_locations_namesakesProvider :
    (create .templated namesakesProvider.identifier false namesakesTable).result =
        .ok (.templated namesakesProvider) ∧
      TemplateField.Opens namesakesProvider.settings.url.toList ∧
      ∃ linux macos windows, namesakesProvider.distribution? .linuxX86_64 = some linux ∧
        namesakesProvider.distribution? .macosAarch64 = some macos ∧
        namesakesProvider.distribution? .windowsX86_64 = some windows ∧
        linux.url = macos.url ∧ linux.url ≠ windows.url := by
  have several : 2 ≤ namesakesProvider.supportedPlatforms.length := by decide
  have opens : TemplateField.Opens namesakesProvider.settings.url.toList := by decide +kernel
  have closed : ∀ platform target, namesakesProvider.settings.platforms.get? platform = some target →
      '{' ∉ (target.name.getD platform.name).toList := by
    intro platform target listed
    have member : (platform, target) ∈ namesakesProvider.settings.platforms.toList :=
      (SortedMap.get?_eq_some_iff _).1 listed
    have plain : ∀ entry ∈ namesakesProvider.settings.platforms.toList,
      '{' ∉ (entry.2.name.getD entry.1.name).toList := by decide +kernel
    exact plain _ member
  have linuxListed : namesakesProvider.settings.platforms.get? .linuxX86_64 = some ⟨some "a", none⟩ := rfl
  have macosListed : namesakesProvider.settings.platforms.get? .macosAarch64 = some ⟨some "a", none⟩ := rfl
  have windowsListed : namesakesProvider.settings.platforms.get? .windowsX86_64 =
    some ⟨some "a-a", none⟩ := rfl
  have shared := create_locations_eq_iff create_namesakesProvider several opens closed linuxListed macosListed
  have apart := create_locations_eq_iff create_namesakesProvider several opens closed linuxListed windowsListed
  obtain ⟨linux, macos, onLinux, onMacos, same⟩ := shared
  obtain ⟨linuxAgain, windows, onLinuxAgain, onWindows, other⟩ := apart
  cases onLinux.symm.trans onLinuxAgain
  refine ⟨create_namesakesProvider, opens, linux, macos, windows, onLinux, onMacos, onWindows, ?_, ?_⟩
  · exact same.2 rfl
  · exact mt other.1 (by decide)

end Provider

end AppBundle
