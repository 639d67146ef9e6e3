/-! # Replacing a fixed field in a text

Occurrences of a non-empty field are found from the left and do not overlap; what is put in their
place is not searched again.
-/

namespace AppBundle.Text

/-- Whether a field occurs somewhere in a text. -/
def containsChars (field : List Char) : List Char → Bool
  | [] => field.isEmpty
  | char :: rest => field.isPrefixOf (char :: rest) || containsChars field rest

/-- Put `inserted` in the place of every occurrence of a non-empty field. -/
def replaceChars (field inserted : List Char) : List Char → List Char
  | [] => []
  | char :: rest =>
    if field.isPrefixOf (char :: rest) then
      inserted ++ replaceChars field inserted (rest.drop (field.length - 1))
    else char :: replaceChars field inserted rest
termination_by text => text.length
decreasing_by
  · simp only [List.length_drop, List.length_cons]; omega
  · simp

theorem containsChars_iff {field text : List Char} : containsChars field text = true ↔ field <:+: text := by
  induction text with
  | nil => simp [containsChars]
  | cons char rest ih =>
    rw [containsChars, Bool.or_eq_true, List.isPrefixOf_iff_prefix, ih, List.infix_cons_iff]

@[simp] theorem replaceChars_nil (field inserted : List Char) : replaceChars field inserted [] = [] := by
  rw [replaceChars]

/-- A field at the front of a text is replaced. -/
theorem replaceChars_field {field : List Char} (nonempty : field ≠ []) (inserted rest : List Char) :
    replaceChars field inserted (field ++ rest) = inserted ++ replaceChars field inserted rest := by
  cases field with
  | nil => exact absurd rfl nonempty
  | cons char body =>
    have found : (char :: body).isPrefixOf (char :: (body ++ rest)) = true :=
      List.isPrefixOf_iff_prefix.2 (List.prefix_append (char :: body) rest)
    rw [List.cons_append, replaceChars, if_pos found]
    simp

/-- A character at which no field begins stays. -/
theorem replaceChars_cons {field : List Char} {char : Char} {rest : List Char}
    (other : ¬ field <+: char :: rest) (inserted : List Char) :
    replaceChars field inserted (char :: rest) = char :: replaceChars field inserted rest := by
  rw [replaceChars, if_neg (mt List.isPrefixOf_iff_prefix.1 other)]

/-- Whether a field occurs somewhere in a text. -/
def contains (text field : String) : Bool := containsChars field.toList text.toList

/-- Put `inserted` in the place of every occurrence of a non-empty field. -/
def replace (text field inserted : String) : String :=
  String.ofList (replaceChars field.toList inserted.toList text.toList)

end AppBundle.Text
