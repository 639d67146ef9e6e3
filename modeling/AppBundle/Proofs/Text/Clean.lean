import AppBundle.Text.Trim
import Mathlib.Data.List.DropRight

/-! # Texts without blanks around them

A clean text is not empty and trimming leaves it as it is. This is so exactly if it begins and ends with
visible characters, and both ends can then be looked at by themselves: the end of a text is the beginning of
the reversed text. Whatever trimming leaves over is clean.
-/

namespace AppBundle.Text

open Unicode

/-- A text is not empty and has no white space at either end. -/
def Clean (text : String) : Prop := text ≠ "" ∧ trim text = text

instance (text : String) : Decidable (Clean text) := inferInstanceAs (Decidable (_ ∧ _))

/-- A text begins with a character that is not white space. -/
def BeginsVisibly (text : List Char) : Prop := ∃ char ∈ text.head?, isBlank char = false

@[simp] theorem not_beginsVisibly_nil : ¬ BeginsVisibly [] := by simp [BeginsVisibly]

@[simp] theorem beginsVisibly_cons_iff {char : Char} {rest : List Char} :
    BeginsVisibly (char :: rest) ↔ isBlank char = false := by
  simp [BeginsVisibly]

variable {text front : List Char}

theorem BeginsVisibly.ne_nil (visible : BeginsVisibly text) : text ≠ [] := by
  rintro rfl
  exact not_beginsVisibly_nil visible

/-- Only the first character counts. -/
theorem beginsVisibly_append_iff (nonempty : front ≠ []) (rest : List Char) :
    BeginsVisibly (front ++ rest) ↔ BeginsVisibly front := by
  obtain ⟨char, behind, rfl⟩ := List.exists_cons_of_ne_nil nonempty
  rw [List.cons_append, beginsVisibly_cons_iff, beginsVisibly_cons_iff]

theorem BeginsVisibly.dropWhile_eq (visible : BeginsVisibly text) : text.dropWhile isBlank = text := by
  obtain ⟨char, rest, rfl⟩ := List.exists_cons_of_ne_nil visible.ne_nil
  rw [beginsVisibly_cons_iff] at visible
  rw [List.dropWhile_cons, visible]
  rfl

theorem beginsVisibly_dropWhile (left : text.dropWhile isBlank ≠ []) :
    BeginsVisibly (text.dropWhile isBlank) := by
  refine ⟨_, List.head?_eq_some_head left, ?_⟩
  simpa using List.head_dropWhile_not isBlank left

/-- What trimming leaves over begins and ends visibly. -/
theorem beginsVisibly_trimChars (left : trimChars text ≠ []) :
    BeginsVisibly (trimChars text) ∧ BeginsVisibly (trimChars text).reverse := by
  constructor
  · have begins : trimChars text <+: text.dropWhile isBlank := List.rdropWhile_prefix isBlank _
    obtain ⟨rest, same⟩ := begins
    rw [← beginsVisibly_append_iff left rest, same]
    refine beginsVisibly_dropWhile fun none => left ?_
    rw [none, List.append_eq_nil_iff] at same
    exact same.1
  · rw [trimChars, List.reverse_reverse]
    refine beginsVisibly_dropWhile fun none => left ?_
    rw [trimChars, none, List.reverse_nil]

theorem trimChars_eq_self (begins : BeginsVisibly text) (ends : BeginsVisibly text.reverse) :
    trimChars text = text := by
  rw [trimChars, begins.dropWhile_eq, ends.dropWhile_eq, List.reverse_reverse]

theorem clean_iff {text : String} :
    Clean text ↔ BeginsVisibly text.toList ∧ BeginsVisibly text.toList.reverse := by
  constructor
  · rintro ⟨nonempty, trimmed⟩
    have same : trimChars text.toList = text.toList := by
      rw [← String.toList_inj, trim, String.toList_ofList] at trimmed
      exact trimmed
    have ends := @beginsVisibly_trimChars text.toList
    rw [same] at ends
    exact ends fun none => nonempty (String.toList_eq_nil_iff.1 none)
  · rintro ⟨begins, ends⟩
    refine ⟨fun none => begins.ne_nil (String.toList_eq_nil_iff.2 none), ?_⟩
    rw [trim, trimChars_eq_self begins ends, String.ofList_toList]

/-- A text that does not consist of blanks is trimmed to a clean one. -/
theorem clean_trim {text : String} (left : trim text ≠ "") : Clean (trim text) := by
  have nonempty : trimChars text.toList ≠ [] := fun none => left (by rw [trim, none])
  rw [clean_iff, trim, String.toList_ofList]
  exact beginsVisibly_trimChars nonempty

end AppBundle.Text
