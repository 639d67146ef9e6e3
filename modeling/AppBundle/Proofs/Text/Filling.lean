import AppBundle.Text.Replace
import AppBundle.Proofs.Text.Clean

/-! # Texts that are filled in

Replacing a field in a text is cutting the text into pieces, the places of the field and the characters
between them, and filling every piece by itself. What is at the ends of the filled in text, and what occurs in
it, can then be said of the pieces. A text that occurs is inside one filled piece, or it straddles several of
them: it is put together where their texts meet, and neither the template nor what is inserted need have it.
-/

namespace AppBundle

section Straddling

variable {α β : Type} {fill : α → List β} {target : List β} {pieces : List α}

/-- A text is put together from neighbouring pieces: the end of one, all of those behind it, and the front of
another one. -/
def Straddles (fill : α → List β) (target : List β) (pieces : List α) : Prop :=
  ∃ first middle last, first :: (middle ++ [last]) <:+: pieces ∧
    ∃ front back, front <:+ fill first ∧ back <+: fill last ∧
      target = front ++ middle.flatMap fill ++ back

/-- What begins a filled list ends inside one of its pieces. -/
theorem exists_of_prefix_flatMap (begins : target <+: pieces.flatMap fill) :
    target = [] ∨ ∃ middle last after, pieces = middle ++ last :: after ∧
      ∃ back, back <+: fill last ∧ target = middle.flatMap fill ++ back := by
  induction pieces generalizing target with
  | nil => exact .inl (List.prefix_nil.1 begins)
  | cons piece rest ih =>
    obtain ⟨behind, same⟩ := begins
    rw [List.flatMap_cons] at same
    rcases List.append_eq_append_iff.1 same with ⟨tail, whole, -⟩ | ⟨tail, rfl, behind⟩
    · exact .inr ⟨[], piece, rest, rfl, target, ⟨tail, whole.symm⟩, rfl⟩
    · rcases ih ⟨_, behind.symm⟩ with rfl | ⟨middle, last, after, rfl, back, ends, rfl⟩
      · exact .inr ⟨[], piece, rest, rfl, fill piece, List.prefix_rfl, List.append_nil _⟩
      · exact .inr ⟨piece :: middle, last, after, rfl, back, ends, (List.append_assoc ..).symm⟩

theorem Straddles.cons (straddles : Straddles fill target pieces) (piece : α) :
    Straddles fill target (piece :: pieces) := by
  obtain ⟨first, middle, last, occurs, parts⟩ := straddles
  exact ⟨first, middle, last, occurs.trans (List.suffix_cons _ _).isInfix, parts⟩

/-- What occurs in a filled list is inside one of its pieces or straddles several of them. -/
theorem infix_flatMap_iff (nonempty : target ≠ []) :
    target <:+: pieces.flatMap fill ↔
      (∃ piece ∈ pieces, target <:+: fill piece) ∨ Straddles fill target pieces := by
  constructor
  · intro occurs
    induction pieces with
    | nil => exact absurd (List.infix_nil.1 occurs) nonempty
    | cons piece rest ih =>
      rw [List.flatMap_cons, List.infix_append_iff] at occurs
      rcases occurs with inside | later | ⟨front, back, rfl, ends, begins⟩
      · exact .inl ⟨piece, List.mem_cons_self .., inside⟩
      · rcases ih later with ⟨other, member, inside⟩ | straddles
        · exact .inl ⟨other, List.mem_cons_of_mem _ member, inside⟩
        · exact .inr (straddles.cons piece)
      · rcases exists_of_prefix_flatMap begins with rfl | ⟨middle, last, after, rfl, back, opens, rfl⟩
        · rw [List.append_nil]
          exact .inl ⟨piece, List.mem_cons_self .., ends.isInfix⟩
        · refine .inr ⟨piece, middle, last, ⟨[], after, ?_⟩, front, back, ends, opens, ?_⟩
          · simp
          · exact (List.append_assoc ..).symm
  · rintro (⟨piece, member, inside⟩ | ⟨first, middle, last, ⟨before, after, rfl⟩, front, back,
      ⟨head, ends⟩, ⟨tail, begins⟩, rfl⟩)
    · obtain ⟨before, after, rfl⟩ := List.append_of_mem member
      rw [List.flatMap_append, List.flatMap_cons, ← List.append_assoc]
      exact inside.trans (List.infix_append _ _ _)
    · refine ⟨before.flatMap fill ++ head, tail ++ after.flatMap fill, ?_⟩
      simp [← ends, ← begins]

end Straddling

namespace Text

/-- A text is cut at a field: `none` where the field stands, and each other character by itself. -/
def cut (field : List Char) : List Char → List (Option Char)
  | [] => []
  | char :: rest =>
    if field.isPrefixOf (char :: rest) then none :: cut field (rest.drop (field.length - 1))
    else some char :: cut field rest
termination_by text => text.length
decreasing_by
  · simp only [List.length_drop, List.length_cons]; omega
  · simp

/-- What stands in the place of a piece. -/
def fill (inserted : List Char) : Option Char → List Char
  | none => inserted
  | some char => [char]

variable {field inserted text : List Char}

/-- Replacing a field is filling in the pieces between which the text is cut. -/
theorem replaceChars_eq_flatMap (field inserted text : List Char) :
    replaceChars field inserted text = (cut field text).flatMap (fill inserted) := by
  fun_induction cut field text with
  | case1 => exact replaceChars_nil ..
  | case2 char rest found ih => rw [replaceChars, if_pos found, ih]; rfl
  | case3 char rest missed ih => rw [replaceChars, if_neg missed, ih]; rfl

/-- A field that occurs in a text is one of the places where the text is cut. -/
theorem none_mem_cut_iff (nonempty : field ≠ []) : none ∈ cut field text ↔ field <:+: text := by
  fun_induction cut field text with
  | case1 => simpa using nonempty
  | case2 char rest found ih =>
    exact iff_of_true (List.mem_cons_self ..) (List.isPrefixOf_iff_prefix.1 found).isInfix
  | case3 char rest missed ih =>
    rw [List.mem_cons, ih, List.infix_cons_iff]
    have other : ¬ field <+: char :: rest := mt List.isPrefixOf_iff_prefix.2 missed
    simp [other]

/-- What is longer than a character occurs in a filled in text if it is inserted there as a part of a longer
text or put together where the pieces meet. -/
theorem infix_replaceChars_iff {target : List Char} (long : 1 < target.length) (nonempty : field ≠ []) :
    target <:+: replaceChars field inserted text ↔
      (field <:+: text ∧ target <:+: inserted) ∨ Straddles (fill inserted) target (cut field text) := by
  have filled : target ≠ [] := List.ne_nil_of_length_pos (by omega)
  rw [replaceChars_eq_flatMap, infix_flatMap_iff filled, ← none_mem_cut_iff nonempty]
  refine or_congr_left ?_
  constructor
  · rintro ⟨piece | char, member, inside⟩
    · exact ⟨member, inside⟩
    · exact absurd inside.length_le (Nat.not_le.2 long)
  · rintro ⟨member, inside⟩
    exact ⟨none, member, inside⟩

section Ends

/-- Of the pieces that are filled with something, the first one begins visibly. -/
def FirstVisible (fill : Option Char → List Char) (pieces : List (Option Char)) : Prop :=
  ∃ before piece after, pieces = before ++ piece :: after ∧
    (∀ other ∈ before, fill other = []) ∧ BeginsVisibly (fill piece)

/-- When a field in a text is filled in, the first and the last piece that are not left empty show a visible
character at the end of the text. -/
def ShowsEnds (text field inserted : String) : Prop :=
  FirstVisible (fill inserted.toList) (cut field.toList text.toList) ∧
    FirstVisible (List.reverse ∘ fill inserted.toList) (cut field.toList text.toList).reverse

variable {put other : Option Char → List Char} {piece : Option Char} {pieces : List (Option Char)}

theorem not_firstVisible_nil : ¬ FirstVisible put [] := by
  rintro ⟨before, piece, after, same, -⟩
  cases before <;> cases same

theorem firstVisible_cons_iff :
    FirstVisible put (piece :: pieces) ↔
      BeginsVisibly (put piece) ∨ put piece = [] ∧ FirstVisible put pieces := by
  constructor
  · rintro ⟨before, found, after, same, skipped, visible⟩
    cases before with
    | nil =>
      obtain ⟨rfl, rfl⟩ := List.cons.inj same
      exact .inl visible
    | cons head before =>
      obtain ⟨rfl, rfl⟩ := List.cons.inj same
      rw [List.forall_mem_cons] at skipped
      exact .inr ⟨skipped.1, before, found, after, rfl, skipped.2, visible⟩
  · rintro (visible | ⟨empty, before, found, after, rfl, skipped, visible⟩)
    · exact ⟨[], piece, pieces, rfl, by simp, visible⟩
    · exact ⟨piece :: before, found, after, rfl, List.forall_mem_cons.2 ⟨empty, skipped⟩, visible⟩

theorem beginsVisibly_flatMap_iff : BeginsVisibly (pieces.flatMap put) ↔ FirstVisible put pieces := by
  induction pieces with
  | nil => exact iff_of_false not_beginsVisibly_nil not_firstVisible_nil
  | cons piece rest ih =>
    rw [List.flatMap_cons, firstVisible_cons_iff]
    by_cases empty : put piece = []
    · simp [empty, ih]
    · simp [empty, beginsVisibly_append_iff empty]

/-- The first piece may be filled with another text if that one is visible where the old one was or was
missing. -/
theorem FirstVisible.refill
    (covers : ∀ piece, put piece = [] ∨ BeginsVisibly (put piece) → BeginsVisibly (other piece))
    (first : FirstVisible put pieces) : FirstVisible other pieces := by
  cases pieces with
  | nil => exact absurd first not_firstVisible_nil
  | cons piece rest =>
    rw [firstVisible_cons_iff] at first ⊢
    exact .inl (covers piece (first.symm.imp And.left id))

/-- A filled in text is clean if its ends show. -/
theorem clean_replace_iff {text field inserted : String} :
    Clean (replace text field inserted) ↔ ShowsEnds text field inserted := by
  rw [clean_iff, replace, String.toList_ofList, replaceChars_eq_flatMap, List.reverse_flatMap,
    beginsVisibly_flatMap_iff, beginsVisibly_flatMap_iff]
  rfl

/-- A clean text never takes visible ends away. -/
theorem ShowsEnds.insert {text field inserted clean : String} (shows : ShowsEnds text field inserted)
    (isClean : Clean clean) : ShowsEnds text field clean := by
  rw [clean_iff] at isClean
  refine ⟨shows.1.refill ?_, shows.2.refill ?_⟩
  · rintro (_ | char) kept
    · exact isClean.1
    · exact kept.resolve_left (List.cons_ne_nil _ _)
  · rintro (_ | char) kept
    · exact isClean.2
    · exact kept.resolve_left (by simp [fill])

theorem replace_self {text field : String} (nonempty : field ≠ "") : replace text field field = text := by
  have filled : field.toList ≠ [] := mt String.toList_eq_nil_iff.1 nonempty
  suffices same : replaceChars field.toList field.toList text.toList = text.toList by
    rw [replace, same, String.ofList_toList]
  generalize text.toList = chars
  fun_induction replaceChars field.toList field.toList chars with
  | case1 => rfl
  | case2 char rest found ih =>
    obtain ⟨behind, same⟩ := List.isPrefixOf_iff_prefix.1 found
    obtain ⟨first, body, opens⟩ := List.exists_cons_of_ne_nil filled
    rw [opens, List.cons_append, List.cons.injEq] at same
    rw [ih, opens, ← same.1, ← same.2]
    simp
  | case3 char rest missed ih => rw [ih]

theorem showsEnds_self_iff {text field : String} (nonempty : field ≠ "") :
    ShowsEnds text field field ↔ Clean text := by
  rw [← clean_replace_iff, replace_self nonempty]

/-- Filling in a field that is clean does not hide blanks at the ends of a text. -/
theorem ShowsEnds.clean {text field inserted : String} (shows : ShowsEnds text field inserted)
    (marked : Clean field) : Clean text :=
  (showsEnds_self_iff marked.1).1 (shows.insert marked)

/-- A clean text that is filled in with a clean text shows its ends. -/
theorem Clean.showsEnds {text field inserted : String} (clean : Clean text) (nonempty : field ≠ "")
    (filled : Clean inserted) : ShowsEnds text field inserted :=
  ((showsEnds_self_iff nonempty).2 clean).insert filled

end Ends

end Text

end AppBundle
