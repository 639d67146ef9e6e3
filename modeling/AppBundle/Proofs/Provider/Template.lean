import AppBundle.Provider.Templated
import Mathlib.Data.List.Infix

/-! # Templates in parts

A template is taken apart from the left into its fields and the characters between them. It can be filled in
in one pass over these parts, which never reads what it puts in. Replacing the fields in the whole text, one
kind of field after the other, gives the same if every opening brace of the template begins a field and the
name of the platform has no opening brace: then the second replacement finds the version fields of the
template and no others. The version may be any text, and closing braces may stand anywhere.
-/

namespace AppBundle

/-- The fields that a template may have. -/
inductive TemplateField where
  | platform
  | version
deriving DecidableEq

namespace TemplateField

/-- A field as it is written in a template. -/
def chars : TemplateField → List Char
  | platform => platformField.toList
  | version => versionField.toList

/-- The field at the front of a text. -/
def atFront? (text : List Char) : Option TemplateField :=
  [platform, version].find? (·.chars.isPrefixOf text)

/-- Every opening brace of a text begins a field. -/
def Opens (text : List Char) : Prop :=
  ∀ rest ∈ text.tails, rest.head? = some '{' →
    platformField.toList <+: rest ∨ versionField.toList <+: rest

instance (text : List Char) : Decidable (Opens text) :=
  inferInstanceAs (Decidable (∀ rest ∈ text.tails, rest.head? = some '{' →
    platformField.toList <+: rest ∨ versionField.toList <+: rest))

variable {field other : TemplateField} {text rest : List Char}

/-- A field has an opening brace in front and nowhere else. -/
theorem exists_chars_eq (field : TemplateField) : ∃ body, field.chars = '{' :: body ∧ '{' ∉ body := by
  cases field with
  | platform => exact ⟨_, rfl, by decide⟩
  | version => exact ⟨_, rfl, by decide⟩

theorem chars_ne_nil (field : TemplateField) : field.chars ≠ [] := by
  obtain ⟨body, opens, -⟩ := field.exists_chars_eq
  rw [opens]
  exact List.cons_ne_nil _ _

theorem not_chars_prefix_cons {char : Char} (other : char ≠ '{') : ¬ field.chars <+: char :: rest := by
  obtain ⟨body, opens, -⟩ := field.exists_chars_eq
  rw [opens, List.cons_prefix_cons]
  exact fun found => other found.1.symm

/-- Different fields differ before either of them ends. -/
theorem chars_prefix_append_iff : field.chars <+: other.chars ++ rest ↔ field = other := by
  constructor
  · intro found
    cases field <;> cases other <;>
      simp_all [chars, platformField, versionField, List.cons_prefix_cons]
  · rintro rfl
    exact List.prefix_append _ _

theorem prefix_of_atFront? (found : atFront? text = some field) : field.chars <+: text := by
  unfold atFront? at found
  have begins := List.find?_some found
  exact List.isPrefixOf_iff_prefix.1 begins

theorem atFront?_eq_some_iff : atFront? text = some field ↔ field.chars <+: text := by
  refine ⟨prefix_of_atFront?, ?_⟩
  rintro ⟨rest, rfl⟩
  have listed : field ∈ [platform, version] := by cases field <;> decide
  cases found : atFront? (field.chars ++ rest) with
  | none =>
    refine absurd ?_ (List.find?_eq_none.1 found field listed)
    exact List.isPrefixOf_iff_prefix.2 (List.prefix_append _ _)
  | some first => rw [chars_prefix_append_iff.1 (prefix_of_atFront? found)]

theorem Opens.of_suffix (opens : Opens text) (suffix : rest <:+ text) : Opens rest := by
  intro tail member
  rw [List.mem_tails] at member
  exact opens tail ((List.mem_tails _ _).2 (member.trans suffix))

theorem Opens.exists_field (opens : Opens ('{' :: rest)) :
    ∃ field : TemplateField, field.chars <+: '{' :: rest := by
  rcases opens _ ((List.mem_tails _ _).2 List.suffix_rfl) rfl with begins | begins
  · exact ⟨platform, begins⟩
  · exact ⟨version, begins⟩

end TemplateField

/-- A part of a template. -/
inductive TemplatePart where
  | literal (char : Char)
  | field (name : TemplateField)
deriving DecidableEq

namespace TemplatePart

open TemplateField (Opens atFront?_eq_some_iff)

/-- The characters of a part. -/
def chars : TemplatePart → List Char
  | literal char => [char]
  | field name => name.chars

/-- The template that is made of parts. -/
def write (parts : List TemplatePart) : List Char := parts.flatMap chars

@[simp] theorem write_nil : write [] = [] := rfl

@[simp] theorem write_cons (part : TemplatePart) (rest : List TemplatePart) :
    write (part :: rest) = part.chars ++ write rest := rfl

/-- The parts of a template: the whole field where one begins, and otherwise one character. -/
def split : List Char → List TemplatePart
  | [] => []
  | char :: rest =>
    match TemplateField.atFront? (char :: rest) with
    | some name => .field name :: split (rest.drop (name.chars.length - 1))
    | none => .literal char :: split rest
termination_by text => text.length
decreasing_by
  · simp only [List.length_drop, List.length_cons]; omega
  · simp

theorem cons_eq_of_atFront? {char : Char} {rest : List Char} {name : TemplateField}
    (found : TemplateField.atFront? (char :: rest) = some name) :
    char :: rest = name.chars ++ rest.drop (name.chars.length - 1) := by
  obtain ⟨behind, same⟩ := atFront?_eq_some_iff.1 found
  obtain ⟨body, opens, -⟩ := name.exists_chars_eq
  rw [opens, List.cons_append, List.cons.injEq] at same
  obtain ⟨rfl, rfl⟩ := same
  rw [opens]
  simp

/-- Taking a template apart loses nothing. -/
theorem write_split (text : List Char) : write (split text) = text := by
  fun_induction split text with
  | case1 => rfl
  | case2 char rest name found ih =>
    rw [write_cons, ih]
    exact (cons_eq_of_atFront? found).symm
  | case3 char rest found ih =>
    rw [write_cons, ih]
    rfl

/-- No opening brace is left over between the fields. -/
theorem literal_notMem_split {text : List Char} (opens : Opens text) : .literal '{' ∉ split text := by
  fun_induction split text with
  | case1 => exact List.not_mem_nil
  | case2 char rest name found ih =>
    have suffix : rest.drop (name.chars.length - 1) <:+ char :: rest :=
      (List.drop_suffix _ _).trans (List.suffix_cons _ _)
    simpa using ih (opens.of_suffix suffix)
  | case3 char rest found ih =>
    have plain : char ≠ '{' := by
      rintro rfl
      obtain ⟨name, begins⟩ := opens.exists_field
      cases found.symm.trans (atFront?_eq_some_iff.2 begins)
    have behind := ih (opens.of_suffix (List.suffix_cons _ _))
    simp [behind, plain.symm]

/-- What is put in the place of a part. Without a version its field stays. -/
def fill (platformName : String) (version : Option String) : TemplatePart → List Char
  | literal char => [char]
  | field .platform => platformName.toList
  | field .version => (version.getD versionField).toList

theorem fill_eq_ite (platformName : String) (version : Option String) (part : TemplatePart) :
    fill platformName version part =
      if part = .field .platform then platformName.toList
      else if part = .field .version then (version.getD versionField).toList
      else part.chars := by
  match part with
  | .field .platform => rfl
  | .field .version => rfl
  | .literal char => rfl

end TemplatePart

namespace Text

variable {mark : Char} {body inserted : List Char}

/-- A field is not found before its first character. -/
theorem replaceChars_append_of_notMem {front : List Char} (absent : mark ∉ front) (rest : List Char) :
    replaceChars (mark :: body) inserted (front ++ rest) =
      front ++ replaceChars (mark :: body) inserted rest := by
  induction front with
  | nil => rfl
  | cons char front ih =>
    rw [List.mem_cons, not_or] at absent
    have other : ¬ mark :: body <+: char :: (front ++ rest) := fun found =>
      absent.1 (List.cons_prefix_cons.1 found).1
    rw [List.cons_append, replaceChars_cons other, ih absent.2, List.cons_append]

end Text

namespace TemplatePart

variable {parts : List TemplatePart} {name : TemplateField}

/-- One part in front of a text is replaced or stays as a whole. -/
theorem replaceChars_chars_append {part : TemplatePart} (plain : part ≠ .literal '{')
    (inserted rest : List Char) :
    Text.replaceChars name.chars inserted (part.chars ++ rest) =
      (if part = .field name then inserted else part.chars) ++
        Text.replaceChars name.chars inserted rest := by
  cases part with
  | literal char =>
    have other : char ≠ '{' := fun same => plain (congrArg literal same)
    exact Text.replaceChars_cons (TemplateField.not_chars_prefix_cons other) inserted
  | field found =>
    by_cases same : found = name
    · subst same
      rw [if_pos rfl]
      exact Text.replaceChars_field found.chars_ne_nil inserted rest
    · -- The other field does not begin here, and no field begins inside it.
      have other : ¬ name.chars <+: found.chars ++ rest := fun begins =>
        same (TemplateField.chars_prefix_append_iff.1 begins).symm
      obtain ⟨body, opens, closed⟩ := found.exists_chars_eq
      obtain ⟨tail, mark, -⟩ := name.exists_chars_eq
      rw [if_neg (by simpa using same)]
      rw [opens, List.cons_append] at other
      rw [chars, opens, List.cons_append, Text.replaceChars_cons other, mark,
        Text.replaceChars_append_of_notMem closed, List.cons_append]

/-- Replacing a field in a template replaces the parts that are this field. -/
theorem replaceChars_write (plain : .literal '{' ∉ parts) (name : TemplateField)
    (inserted : List Char) :
    Text.replaceChars name.chars inserted (write parts) =
      parts.flatMap fun part => if part = .field name then inserted else part.chars := by
  induction parts with
  | nil => exact Text.replaceChars_nil _ _
  | cons part rest ih =>
    rw [List.mem_cons, not_or] at plain
    rw [write_cons, replaceChars_chars_append (Ne.symm plain.1), ih plain.2, List.flatMap_cons]

/-- What becomes of a part when the platform is replaced: the characters of the name stand in its place. -/
def insertName (platformName : List Char) : TemplatePart → List TemplatePart
  | field .platform => platformName.map literal
  | part => [part]

theorem flatMap_insertName {put : TemplatePart → List Char} (keeps : ∀ char, put (literal char) = [char])
    (platformName : List Char) (part : TemplatePart) :
    (insertName platformName part).flatMap put =
      if part = .field .platform then platformName else put part := by
  have copied : (platformName.map literal).flatMap put = platformName := by
    rw [List.flatMap_map]
    simp [keeps]
  match part with
  | .field .platform => exact copied
  | .field .version => simp [insertName]
  | .literal char => simp [insertName]

theorem write_flatMap_insertName (platformName : List Char) (parts : List TemplatePart) :
    write (parts.flatMap (insertName platformName)) =
      parts.flatMap fun part => if part = .field .platform then platformName else part.chars := by
  rw [write, List.flatMap_assoc]
  exact List.flatMap_congr fun part _ => flatMap_insertName (fun _ => rfl) platformName part

/-- A name without an opening brace leaves none behind. -/
theorem literal_notMem_flatMap_insertName {platformName : List Char} (closed : '{' ∉ platformName)
    (plain : .literal '{' ∉ parts) : .literal '{' ∉ parts.flatMap (insertName platformName) := by
  intro member
  obtain ⟨part, listed, inserted⟩ := List.mem_flatMap.1 member
  match part with
  | .field .platform =>
    obtain ⟨char, found, same⟩ := List.mem_map.1 inserted
    cases same
    exact closed found
  | .field .version => cases List.mem_singleton.1 inserted
  | .literal char => exact plain (List.mem_singleton.1 inserted ▸ listed)

/-- Replacing the platform in the whole template and then the version fills in every part once. -/
theorem replaceChars_replaceChars_write (plain : .literal '{' ∉ parts) {platformName : String}
    (closed : '{' ∉ platformName.toList) (version : String) :
    Text.replaceChars versionField.toList version.toList
        (Text.replaceChars platformField.toList platformName.toList (write parts)) =
      parts.flatMap (fill platformName (some version)) := by
  have first : Text.replaceChars platformField.toList platformName.toList (write parts) =
      write (parts.flatMap (insertName platformName.toList)) := by
    rw [write_flatMap_insertName]
    exact replaceChars_write plain .platform platformName.toList
  have second := replaceChars_write (literal_notMem_flatMap_insertName closed plain) .version
    version.toList
  rw [first]
  refine second.trans ?_
  rw [List.flatMap_assoc]
  refine List.flatMap_congr fun part _ => ?_
  rw [flatMap_insertName fun _ => rfl, fill_eq_ite]
  rfl

/-- Without a version only the platform is replaced. -/
theorem replaceChars_write_platform (plain : .literal '{' ∉ parts) (platformName : String) :
    Text.replaceChars platformField.toList platformName.toList (write parts) =
      parts.flatMap (fill platformName none) := by
  refine (replaceChars_write plain .platform platformName.toList).trans ?_
  refine List.flatMap_congr fun part _ => ?_
  by_cases version : part = .field .version
  · rw [version]
    rfl
  · rw [fill_eq_ite, if_neg version]

end TemplatePart

namespace TemplatedSettings

/-- Fill in a template in one pass over its parts. -/
def fillIn (settings : TemplatedSettings) (template platformName : String) : String :=
  String.ofList
    ((TemplatePart.split template.toList).flatMap (TemplatePart.fill platformName settings.version))

/-- A template is filled in part by part, however its parts without stray opening braces are given. -/
theorem substitute_eq_of_write {parts : List TemplatePart} {template platformName : String}
    (settings : TemplatedSettings) (plain : .literal '{' ∉ parts)
    (written : TemplatePart.write parts = template.toList) (closed : '{' ∉ platformName.toList) :
    settings.substitute template platformName =
      String.ofList (parts.flatMap (TemplatePart.fill platformName settings.version)) := by
  unfold substitute Text.replace
  rw [← written]
  cases settings.version with
  | none => exact congrArg String.ofList (TemplatePart.replaceChars_write_platform plain platformName)
  | some version =>
    simp only [String.toList_ofList]
    rw [TemplatePart.replaceChars_replaceChars_write plain closed]

/-- Where every opening brace of a template begins a field and the name of the platform has none, replacing
the platform and then the version in the whole text is filling in every part of the template once. -/
theorem substitute_eq_fillIn (settings : TemplatedSettings) (template platformName : String)
    (opens : TemplateField.Opens template.toList) (closed : '{' ∉ platformName.toList) :
    settings.substitute template platformName = settings.fillIn template platformName := by
  have plain := TemplatePart.literal_notMem_split opens
  have written := TemplatePart.write_split template.toList
  exact settings.substitute_eq_of_write plain written closed

/-- Settings with fields side by side in the location, and with fields in the version. -/
def fieldsInVersion : TemplatedSettings where
  url := "u\x7bplatform\x7d\x7bversion\x7d\x7bversion\x7d\x7bplatform\x7d"
  version := some "\x7bplatform\x7d\x7bversion\x7d\x7b"
  fileName := none
  fileType := none
  placeholders := .empty
  platforms := .empty

/-- The fields in the version stay as they are. -/
theorem substitute_fieldsInVersion :
    TemplateField.Opens fieldsInVersion.url.toList ∧ '{' ∉ "version".toList ∧
      fieldsInVersion.substitute fieldsInVersion.url "version" =
        "uversion\x7bplatform\x7d\x7bversion\x7d\x7b\x7bplatform\x7d\x7bversion\x7d\x7bversion" := by
  have opens : TemplateField.Opens fieldsInVersion.url.toList := by decide +kernel
  have closed : '{' ∉ "version".toList := by decide
  refine ⟨opens, closed, ?_⟩
  rw [substitute_eq_fillIn _ _ _ opens closed]
  decide +kernel

end TemplatedSettings

end AppBundle
