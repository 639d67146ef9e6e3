import AppBundle.Url
import Mathlib.Data.List.TakeWhile

/-! # The file name in a location

A location is cut twice to find its file name: behind its path, where a query or a fragment begins, and in
front of the last segment of the path, behind the last slash. Where both cuts are is said of the characters
next to them, so that `fileName?` can be read without the scanning that it does. A location that is put
together from its parts shows what the cuts leave: the last segment of its path, or its authority if there is
no path, since then the last slash is the one in front of the authority.
-/

namespace AppBundle

/-- What is taken from the front of a list, said of both sides of the cut. -/
theorem takeWhile_eq_iff {α : Type} {p : α → Bool} {list front : List α} :
    list.takeWhile p = front ↔
      (∀ value ∈ front, p value = true) ∧
        ∃ rest, list = front ++ rest ∧ ∀ value ∈ rest.head?, p value = false := by
  constructor
  · rintro rfl
    refine ⟨fun _ => List.mem_takeWhile_imp, list.dropWhile p, List.takeWhile_append_dropWhile.symm, ?_⟩
    intro value first
    have stopped := List.head?_dropWhile_not p list
    rw [first] at stopped
    simpa using stopped
  · rintro ⟨inside, rest, rfl, boundary⟩
    rw [List.takeWhile_append_of_pos inside]
    cases rest with
    | nil => exact List.append_nil _
    | cons value rest => simp [boundary value rfl]

namespace Url

/-- `name` is the file name in a location: the text that is not empty behind the last slash, if there is any,
of what comes before the first question mark or number sign. -/
def Names (url name : String) : Prop :=
  ∃ front rest : String, url = front ++ name ++ rest ∧ name ≠ "" ∧
    ('/' ∉ name.toList ∧ ∀ char ∈ front.toList.getLast?, char = '/') ∧
    (∀ char ∈ (front ++ name).toList, char ≠ '?' ∧ char ≠ '#') ∧
    ∀ char ∈ rest.toList.head?, char = '?' ∨ char = '#'

theorem path_eq_iff {url front : List Char} :
    path url = front ↔
      (∀ char ∈ front, char ≠ '?' ∧ char ≠ '#') ∧
        ∃ rest, url = front ++ rest ∧ ∀ char ∈ rest.head?, char = '?' ∨ char = '#' := by
  rw [path, takeWhile_eq_iff]
  simp only [Bool.and_eq_true, Bool.and_eq_false_iff, decide_eq_true_eq, decide_eq_false_iff_not, not_not]

theorem lastSegment_eq_iff {path segment : List Char} :
    lastSegment path = segment ↔
      '/' ∉ segment ∧ ∃ front, path = front ++ segment ∧ ∀ char ∈ front.getLast?, char = '/' := by
  rw [lastSegment, ← List.reverse_inj, List.reverse_reverse, takeWhile_eq_iff]
  refine and_congr ?_ ?_
  · simp only [List.mem_reverse, decide_eq_true_eq]
    exact ⟨fun other member => other _ member rfl, fun free char member same => free (same ▸ member)⟩
  · constructor
    · rintro ⟨rest, same, boundary⟩
      refine ⟨rest.reverse, ?_, ?_⟩
      · rw [← List.reverse_inj, same, List.reverse_append, List.reverse_reverse]
      · simpa using boundary
    · rintro ⟨front, rfl, boundary⟩
      refine ⟨front.reverse, List.reverse_append, ?_⟩
      simpa using boundary

/-- The file name that is found in a location is the one that it names. -/
theorem fileName?_eq_some_iff {url name : String} : fileName? url = some name ↔ Names url name := by
  have found : fileName? url = some name ↔ lastSegment (path url.toList) = name.toList ∧ name ≠ "" := by
    unfold fileName?
    split
    · next empty =>
      refine iff_of_false nofun fun ⟨same, nonempty⟩ => nonempty ?_
      rwa [empty, eq_comm, String.toList_eq_nil_iff] at same
    · next segment nonempty =>
      rw [Option.some.injEq, ← String.toList_inj, String.toList_ofList]
      refine (and_iff_left_of_imp fun same => ?_).symm
      rintro rfl
      exact nonempty same
  rw [found, lastSegment_eq_iff]
  constructor
  · rintro ⟨⟨free, front, cut, slash⟩, nonempty⟩
    obtain ⟨plain, rest, whole, ends⟩ := path_eq_iff.1 cut
    refine ⟨String.ofList front, String.ofList rest, ?_, nonempty, ⟨free, ?_⟩, ?_, ?_⟩
    · rw [← String.toList_inj]
      simpa using whole
    · simpa using slash
    · simpa using plain
    · simpa using ends
  · rintro ⟨front, rest, rfl, nonempty, ⟨free, slash⟩, plain, ends⟩
    refine ⟨⟨free, front.toList, ?_, slash⟩, nonempty⟩
    rw [← String.toList_append, path_eq_iff]
    exact ⟨plain, rest.toList, String.toList_append, ends⟩

theorem exists_names_iff {url : String} :
    (∃ name, Names url name) ↔ (fileName? url).isSome = true := by
  rw [Option.isSome_iff_exists]
  simp only [fileName?_eq_some_iff]

instance (url : String) : Decidable (∃ name, Names url name) := decidable_of_iff' _ exists_names_iff

/-- A part of a location that is not empty and that no other part begins in. -/
def Closed (part : String) : Prop :=
  part ≠ "" ∧ ∀ char ∈ part.toList, char ≠ '/' ∧ char ≠ '?' ∧ char ≠ '#'

/-- The parts of a location with a scheme and an authority. The path may be empty; behind it are the query and
the fragment, as far as there are any. -/
structure Parts where
  scheme : String
  authority : String
  path : String
  rest : String
  scheme_closed : Closed scheme
  authority_closed : Closed authority
  path_begins : ∀ char ∈ path.toList.head?, char = '/'
  path_inside : ∀ char ∈ path.toList, char ≠ '?' ∧ char ≠ '#'
  rest_begins : ∀ char ∈ rest.toList.head?, char = '?' ∨ char = '#'

namespace Parts

variable (parts : Parts) {name other : String}

/-- A location up to the end of its path. -/
def front : String := parts.scheme ++ "://" ++ parts.authority ++ parts.path

/-- The location that has the given parts. -/
def text : String := parts.front ++ parts.rest

/-- What stands behind the last slash of the path. -/
def LastSegment (name : String) : Prop := '/' ∉ name.toList ∧ ∃ front, parts.path = front ++ "/" ++ name

/-- What stands behind the last slash in front of the query and the fragment: the last segment of the path, or
the authority if there is no path. -/
def Ends (name : String) : Prop := parts.LastSegment name ∨ parts.path = "" ∧ name = parts.authority

theorem path_text : Url.path parts.text.toList = parts.front.toList := by
  refine path_eq_iff.2 ⟨?_, parts.rest.toList, String.toList_append, parts.rest_begins⟩
  simp only [front, String.toList_append, List.mem_append]
  rintro char (((scheme | sign) | authority) | path)
  · exact (parts.scheme_closed.2 char scheme).2
  · simp only [String.reduceToList, List.mem_cons, List.not_mem_nil, or_false] at sign
    rcases sign with rfl | rfl | rfl <;> decide
  · exact (parts.authority_closed.2 char authority).2
  · exact parts.path_inside char path

variable {parts}

theorem Ends.lastSegment_eq (ends : parts.Ends name) : lastSegment parts.front.toList = name.toList := by
  rw [lastSegment_eq_iff]
  rcases ends with ⟨free, front, cut⟩ | ⟨empty, rfl⟩
  · refine ⟨free, (parts.scheme ++ "://" ++ parts.authority ++ front).toList ++ ['/'], ?_, ?_⟩
    · simp [Parts.front, cut]
    · rw [List.getLast?_concat]
      simp
  · refine ⟨fun slash => (parts.authority_closed.2 _ slash).1 rfl, (parts.scheme ++ "://").toList, ?_, ?_⟩
    · simp [Parts.front, empty]
    · simp

theorem Ends.unique (ends : parts.Ends name) (again : parts.Ends other) : name = other :=
  String.toList_inj.1 (ends.lastSegment_eq.symm.trans again.lastSegment_eq)

variable (parts) in
theorem exists_ends : ∃ name, parts.Ends name := by
  by_cases empty : parts.path = ""
  · exact ⟨parts.authority, .inr ⟨empty, rfl⟩⟩
  · obtain ⟨free, front, cut, slash⟩ := (@lastSegment_eq_iff parts.path.toList _).1 rfl
    rcases List.eq_nil_or_concat front with rfl | ⟨before, last, rfl⟩
    · -- A path begins with a slash, which the last segment has not.
      obtain ⟨char, first⟩ := Option.ne_none_iff_exists'.1
        (mt List.head?_eq_none_iff.1 (mt String.toList_eq_nil_iff.1 empty))
      obtain rfl := parts.path_begins char first
      rw [List.nil_append] at cut
      exact absurd (cut ▸ List.mem_of_mem_head? first) free
    · obtain rfl := slash last (by simp)
      refine ⟨String.ofList (lastSegment parts.path.toList), .inl ⟨?_, String.ofList before, ?_⟩⟩
      · rwa [String.toList_ofList]
      · rw [← String.toList_inj]
        simpa using cut

/-- The file name in a location is what stands behind the last slash, unless that is empty. -/
theorem fileName?_text (ends : parts.Ends name) :
    fileName? parts.text = if name = "" then none else some name := by
  rw [fileName?, path_text, ends.lastSegment_eq]
  split
  · next empty => rw [if_pos (String.toList_eq_nil_iff.1 empty)]
  · next nonempty => rw [if_neg (mt String.toList_eq_nil_iff.2 nonempty), String.ofList_toList]

theorem fileName?_text_eq_some_iff : fileName? parts.text = some name ↔ name ≠ "" ∧ parts.Ends name := by
  obtain ⟨last, ends⟩ := parts.exists_ends
  rw [fileName?_text ends, Option.ite_none_left_eq_some, Option.some.injEq]
  constructor
  · rintro ⟨nonempty, rfl⟩
    exact ⟨nonempty, ends⟩
  · rintro ⟨nonempty, again⟩
    obtain rfl := ends.unique again
    exact ⟨nonempty, rfl⟩

theorem ends_empty_iff : parts.Ends "" ↔ ∃ front, parts.path = front ++ "/" := by
  rw [Ends, or_iff_left fun pathless => parts.authority_closed.1 pathless.2.symm, LastSegment]
  simp

theorem fileName?_text_eq_none_iff :
    fileName? parts.text = none ↔ ∃ front, parts.path = front ++ "/" := by
  obtain ⟨last, ends⟩ := parts.exists_ends
  rw [fileName?_text ends, ← ends_empty_iff, ite_eq_left_iff]
  constructor
  · intro empty
    by_cases named : last = ""
    · exact named ▸ ends
    · cases empty named
  · intro again named
    exact absurd (ends.unique again) named

end Parts

end Url

end AppBundle
