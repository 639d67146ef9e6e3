import AppBundle.Pattern.Reader

/-! # Pattern texts in a frame

A pattern text that can be read by itself is read in the same way in front of the end of a group, which is
then what is left to be read. Only a comment that runs up to the end of the text takes in what follows. So
a framed text is compared with the text at every step of the reading, and what is left of the one is again
what is left of the other in its frame, or else the same.
-/

namespace AppBundle.Pattern

/-- The end of the frame of a pattern. -/
def frameEnd : List Char := [')', '$']

/-- A second text is the first one, or else the first one with the end of the frame behind it. -/
inductive Framed : List Char → List Char → Prop where
  | cut : Framed [] []
  | close : Framed [] frameEnd
  | cons (char : Char) {text framed : List Char} (rest : Framed text framed) :
    Framed (char :: text) (char :: framed)

namespace Framed

variable {text framed : List Char}

theorem append (text : List Char) : Framed text (text ++ frameEnd) := by
  induction text with
  | nil => exact close
  | cons char text ih => exact ih.cons char

theorem length_le (frame : Framed text framed) : text.length ≤ framed.length := by
  induction frame with
  | cut => exact Nat.le_refl _
  | close => exact Nat.zero_le _
  | cons _ _ ih => exact Nat.succ_le_succ ih

theorem dropWhile {p : Char → Bool} (frame : Framed text framed)
    (stays : Framed [] (frameEnd.dropWhile p)) : Framed (text.dropWhile p) (framed.dropWhile p) := by
  induction frame with
  | cut => exact cut
  | close => exact stays
  | cons char rest ih =>
    rw [List.dropWhile_cons, List.dropWhile_cons]
    split
    · exact ih
    · exact .cons char rest

/-- What stands before a character of a text is not changed by what follows. -/
theorem takeWhile_eq {p : Char → Bool} (frame : Framed text framed) (found : text.dropWhile p ≠ []) :
    framed.takeWhile p = text.takeWhile p := by
  induction frame with
  | cut => rfl
  | close => exact absurd rfl found
  | cons char rest ih =>
    rw [List.dropWhile_cons] at found
    rw [List.takeWhile_cons, List.takeWhile_cons]
    split
    · next passed =>
      rw [if_pos passed] at found
      rw [ih found]
    · rfl

/-- A framed text begins like the text as far as the frame does not end. -/
theorem exists_prefix {behind : List Char} (known : List Char) (frame : Framed text (known ++ behind))
    (inside : ')' ∉ known) : ∃ rest, text = known ++ rest := by
  induction known generalizing text with
  | nil => exact ⟨text, rfl⟩
  | cons char known ih =>
    rw [List.mem_cons, not_or] at inside
    generalize same : (char :: known) ++ behind = framed at frame
    cases frame with
    | cut => cases same
    | close => exact absurd (List.cons.inj same).1.symm inside.1
    | cons _ within =>
      cases same
      obtain ⟨rest, rfl⟩ := ih within inside.2
      exact ⟨rest, rfl⟩

theorem not_prefix {behind : List Char} (known : List Char) (frame : Framed text framed)
    (inside : ')' ∉ known) (differs : ∀ rest, text = known ++ rest → False) :
    framed = known ++ behind → False := by
  rintro rfl
  obtain ⟨rest, same⟩ := frame.exists_prefix known inside
  exact differs rest same

theorem skipComment (frame : Framed text framed) :
    Framed (Flags.skipComment text) (Flags.skipComment framed) := by
  induction frame with
  | cut => exact cut
  | close => exact cut
  | cons char rest ih =>
    simp only [Flags.skipComment, List.dropWhile_cons]
    split
    · exact ih
    · exact rest

theorem not_isBlank_close : Unicode.isBlank ')' = false := by decide +kernel

theorem trim (frame : Framed text framed) :
    Framed (text.dropWhile Unicode.isBlank) (framed.dropWhile Unicode.isBlank) := by
  refine frame.dropWhile ?_
  rw [frameEnd, List.dropWhile_cons_of_neg (by simp [not_isBlank_close])]
  exact close

theorem skipSpace_frameEnd : Flags.skipSpace frameEnd = frameEnd := by
  rw [frameEnd, Flags.skipSpace, not_isBlank_close]
  rfl

theorem skipSpace (frame : Framed text framed) :
    Framed (Flags.skipSpace text) (Flags.skipSpace framed) := by
  fun_induction Flags.skipSpace text generalizing framed with
  | case1 =>
    cases frame with
    | cut => exact Flags.skipSpace.eq_1.symm ▸ cut
    | close => exact skipSpace_frameEnd.symm ▸ close
  | case2 char rest blank ih =>
    cases frame with
    | cons _ frame =>
      rw [Flags.skipSpace, if_pos blank]
      exact ih frame
  | case3 rest plain ih =>
    cases frame with
    | cons _ frame =>
      rw [Flags.skipSpace, if_neg plain, if_pos rfl]
      exact ih frame.skipComment
  | case4 char rest plain other =>
    cases frame with
    | cons _ frame =>
      rw [Flags.skipSpace, if_neg plain, if_neg other]
      exact frame.cons char

theorem skip (frame : Framed text framed) (flags : Flags) :
    Framed (flags.skip text) (flags.skip framed) := by
  rw [Flags.skip, Flags.skip]
  split
  · exact frame.skipSpace
  · exact frame

theorem head?_iff {char : Char} (frame : Framed text framed) (other : char ≠ ')') :
    framed.head? = some char ↔ text.head? = some char := by
  cases frame with
  | cut => rfl
  | close => simp [frameEnd, other.symm]
  | cons => rfl

/-- Where a text begins is not passed over. -/
theorem dropWhile_eq_self {p : Char → Bool} {char : Char} (head : text.head? = some char)
    (stays : p char = false) : text.dropWhile p = text := by
  cases text with
  | nil => cases head
  | cons _ _ =>
    cases head
    rw [List.dropWhile_cons_of_neg (by simp [stays])]

/-- The first character of a part of a text, or else that of the whole, is not the end of a group in front
of which they stand, unless it is in the text. -/
theorem head?_or_iff {char : Char} {inner outer : List Char} (frame : Framed text framed)
    (within : Framed inner outer) (other : char ≠ ')') (kept : text.head? = some char → inner ≠ []) :
    outer.head?.or framed.head? = some char ↔ inner.head?.or text.head? = some char := by
  cases within with
  | cut => exact frame.head?_iff other
  | close =>
    exact iff_of_false (fun found => other (Option.some.inj found).symm) fun found => kept found rfl
  | cons => rfl

/-- A character that counts in the extended mode and is not the end of a group is the next one in front of
the end of a group too. -/
theorem peek_iff {char : Char} (frame : Framed text framed) (flags : Flags)
    (plain : Unicode.isBlank char = false) (sign : char ≠ '#') (other : char ≠ ')') :
    flags.peek framed = some char ↔ flags.peek text = some char := by
  have begins (found : text.head? = some char) := dropWhile_eq_self found plain
  unfold Flags.peek
  split
  · generalize trimmed : text.dropWhile Unicode.isBlank = inner at begins
    have within := frame.trim
    rw [trimmed] at within
    generalize framed.dropWhile Unicode.isBlank = outer at within
    have kept (found : text.head? = some char) : inner ≠ [] := by
      rintro rfl
      rw [← begins found] at found
      cases found
    by_cases comment : inner.head? = some '#'
    · cases within with
      | cut => cases comment
      | close => cases comment
      | cons _ rest =>
        cases comment
        refine frame.head?_or_iff rest.trim other fun found => ?_
        rw [← begins found] at found
        exact absurd (Option.some.inj found).symm sign
    · have outside : outer.head? ≠ some '#' := mt (within.head?_iff (by decide)).1 comment
      split
      · exact absurd rfl outside
      · split
        · exact absurd rfl comment
        · exact frame.head?_or_iff within other kept
  · exact frame.head?_iff other

end Framed

/-- If something is read, then so it is again, up to a relation. -/
inductive Again {α β : Type} (related : α → β → Prop) : Option α → Option β → Prop where
  | none {found : Option β} : Again related none found
  | some {value : α} {other : β} (same : related value other) : Again related (some value) (some other)

namespace Again

variable {α β γ δ : Type} {related : α → β → Prop} {onward : γ → δ → Prop}

theorem bind {first : Option α} {second : Option β} (again : Again related first second)
    {next : α → Option γ} {other : β → Option δ}
    (step : ∀ value found, related value found → Again onward (next value) (other found)) :
    Again onward (first >>= next) (second >>= other) := by
  cases again with
  | none => exact .none
  | some same => exact step _ _ same

theorem refl (found : Option α) : Again Eq found found := by
  cases found with
  | none => exact .none
  | some value => exact .some rfl

/-- What does not depend on the text is the same again. -/
theorem given {first : Option α} {next : α → Option γ} {other : α → Option δ}
    (step : ∀ value, Again onward (next value) (other value)) :
    Again onward (first >>= next) (first >>= other) :=
  (refl first).bind fun value _ same => same ▸ step value

theorem map {first : Option α} {second : Option β} (again : Again related first second)
    {next : α → γ} {other : β → δ} (step : ∀ value found, related value found →
      onward (next value) (other found)) : Again onward (first.map next) (second.map other) := by
  cases again with
  | none => exact .none
  | some same => exact .some (step _ _ same)

theorem ite {p q : Prop} [Decidable p] [Decidable q] (same : q ↔ p) {first other : Option α}
    {second more : Option β} (yes : Again related first second) (no : Again related other more) :
    Again related (if p then first else other) (if q then second else more) := by
  by_cases holds : p
  · rw [if_pos holds, if_pos (same.2 holds)]
    exact yes
  · rw [if_neg holds, if_neg (mt same.1 holds)]
    exact no

theorem exists_of_some {first : Option α} {second : Option β} (again : Again related first second)
    {value : α} (found : first = .some value) : ∃ other, second = .some other ∧ related value other := by
  cases again with
  | none => cases found
  | some same =>
    cases found
    exact ⟨_, rfl, same⟩

end Again

/-- The same is read, and framed texts are left. -/
def SameRead {α : Type} (first second : α × List Char) : Prop :=
  first.1 = second.1 ∧ Framed first.2 second.2

/-- What follows is read from framed texts again. -/
theorem Again.follow {α γ δ : Type} {onward : γ → δ → Prop} {first second : Option (α × List Char)}
    (again : Again SameRead first second) {next : α × List Char → Option γ}
    {other : α × List Char → Option δ}
    (step : ∀ value {rest behind}, Framed rest behind →
      Again onward (next (value, rest)) (other (value, behind))) :
    Again onward (first >>= next) (second >>= other) := by
  refine again.bind ?_
  rintro ⟨value, rest⟩ ⟨_, behind⟩ ⟨rfl, left⟩
  exact step value left

section Flags

variable {text framed : List Char} {flags : Flags}

theorem Flags.length_skip_le (flags : Flags) (text : List Char) :
    (flags.skip text).length ≤ text.length := by
  have spaces : (skipSpace text).length ≤ text.length := by
    fun_induction skipSpace text with
    | case1 => simp
    | case2 char rest _ ih => exact Nat.le_succ_of_le ih
    | case3 rest _ ih => exact Nat.le_succ_of_le (Nat.le_trans ih (length_skipComment_le rest))
    | case4 => exact Nat.le_refl _
  rw [skip]
  split
  · exact spaces
  · exact Nat.le_refl _

/-- The same flags are read, and framed texts are left. -/
def SameFlags (first second : Flags × Nat × Char × List Char) : Prop :=
  first.1 = second.1 ∧ first.2.1 = second.2.1 ∧ SameRead first.2.2 second.2.2

theorem Flags.read_again (flags : Flags) (seen : List Char) (frame : Framed text framed) :
    Again SameFlags (flags.read seen text) (flags.read seen framed) := by
  induction frame generalizing flags seen with
  | cut => exact .none
  | close => exact .none
  | cons char inner ih =>
    unfold Flags.read
    split
    · split
      · exact .none
      · exact .some ⟨rfl, rfl, rfl, inner⟩
    · split
      · exact .none
      · split
        · exact ih ..
        · split
          · exact .none
          · exact ih ..

/-- The characters of a class at the beginning of a text, with what is insignificant between them left out.
The number bounds how many there are. -/
def Flags.run (flags : Flags) (p : Char → Bool) : Nat → List Char → List Char × List Char
  | 0, text => ([], text)
  | _ + 1, [] => ([], [])
  | fuel + 1, char :: rest =>
    if p char then
      let (found, rest) := flags.run p fuel (flags.skip rest)
      (char :: found, rest)
    else ([], char :: rest)

theorem Flags.run_same {p : Char → Bool} (stops : p ')' = false) {fuel more : Nat}
    (bounded : text.length ≤ fuel) (enough : fuel ≤ more) (frame : Framed text framed) :
    SameRead (flags.run p fuel text) (flags.run p more framed) := by
  induction fuel generalizing more text framed with
  | zero =>
    obtain rfl := List.length_eq_zero_iff.1 (Nat.le_zero.1 bounded)
    cases frame with
    | cut => cases more <;> exact ⟨rfl, .cut⟩
    | close => cases more <;> simpa [run, frameEnd, stops] using ⟨rfl, .close⟩
  | succ fuel ih =>
    obtain ⟨more, rfl⟩ := Nat.exists_eq_add_of_le' (Nat.one_le_of_lt enough)
    cases frame with
    | cut => exact ⟨rfl, .cut⟩
    | close => simpa [run, frameEnd, stops] using ⟨rfl, .close⟩
    | cons char inner =>
      have shorter := Nat.le_trans (flags.length_skip_le _) (Nat.le_of_succ_le_succ bounded)
      have rest := ih shorter (Nat.le_of_succ_le_succ enough) (inner.skip flags)
      rw [run, run]
      split
      · exact ⟨congrArg (char :: ·) rest.1, rest.2⟩
      · exact ⟨rfl, inner.cons char⟩

end Flags

end AppBundle.Pattern
