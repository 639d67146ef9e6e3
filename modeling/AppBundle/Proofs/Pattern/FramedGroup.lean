import AppBundle.Proofs.Pattern.FramedClass

/-! # Groups in a frame

What a group holds is read from a framed text as from the text, up to the end of the group. At the end of
the text this is the end of the frame.
-/

namespace AppBundle.Pattern

variable {text framed : List Char} {flags : Flags}

namespace Reader

theorem digits_eq_run (fuel : Nat) (text : List Char) :
    digits flags fuel text = flags.run Char.isDigit fuel text := by
  induction fuel generalizing text with
  | zero => rfl
  | succ fuel ih =>
    cases text with
    | nil => rfl
    | cons char rest => rw [digits, Flags.run, ih]

theorem count_again (frame : Framed text framed) :
    Again SameRead (count flags text) (count flags framed) := by
  have trimmed := frame.trim
  obtain ⟨same, left⟩ := flags.run_same (p := Char.isDigit) rfl (Nat.le_refl _) trimmed.length_le trimmed
  unfold count
  dsimp only
  rw [digits_eq_run, digits_eq_run, same]
  exact .ite Iff.rfl .none (.some ⟨rfl, left.trim⟩)

theorem skipLazy_same (frame : Framed text framed) : Framed (skipLazy text) (skipLazy framed) := by
  cases frame with
  | cut => exact .cut
  | close => exact .close
  | cons char inner =>
    by_cases mark : char = '?'
    · subst mark
      exact inner
    · have plain (text : List Char) : skipLazy (char :: text) = char :: text := by
        simp [skipLazy, mark]
      rw [plain, plain]
      exact inner.cons char

/-- The greatest count of a repetition, if there is one, behind the comma of its bounds. -/
def upperBound (flags : Flags) (least : Nat) (text : List Char) : Option (Nat × Option Nat × List Char) :=
  match text with
  | '}' :: rest => return (least, none, skipLazy (flags.skip rest))
  | rest => do
    let (most, rest) ← count flags rest
    match rest with
    | '}' :: rest =>
      if least ≤ most then return (least, some most, skipLazy (flags.skip rest)) else none
    | _ => none

/-- The same bounds are read, and framed texts are left. -/
def SameBounds (first second : Nat × Option Nat × List Char) : Prop :=
  first.1 = second.1 ∧ SameRead first.2 second.2

theorem upperBound_again (least : Nat) (frame : Framed text framed) :
    Again SameBounds (upperBound flags least text) (upperBound flags least framed) := by
  unfold upperBound
  split
  · cases frame with
    | cons _ inner => exact .some ⟨rfl, rfl, skipLazy_same (inner.skip flags)⟩
  · next other =>
    split
    · exact (frame.not_prefix ['}'] (by decide) other rfl).elim
    · refine (count_again frame).follow fun most _ _ left => ?_
      dsimp only
      split
      · cases left with
        | cons _ left => exact .ite Iff.rfl (.some ⟨rfl, rfl, skipLazy_same (left.skip flags)⟩) .none
      · exact .none

theorem bounds_again (frame : Framed text framed) :
    Again SameBounds (bounds flags text) (bounds flags framed) := by
  unfold bounds
  refine (count_again (frame.skip flags)).follow fun least _ _ left => ?_
  dsimp only
  split
  · cases left with
    | cons _ left => exact .some ⟨rfl, rfl, skipLazy_same (left.skip flags)⟩
  · cases left with
    | cons _ left => exact upperBound_again least (left.skip flags)
  · exact .none

theorem groupName_again (frame : Framed text framed) :
    Again SameRead (groupName text) (groupName framed) := by
  have past := frame.dropWhile (p := (· ≠ '>')) .cut
  have before := frame.takeWhile_eq (p := (· ≠ '>'))
  unfold groupName
  generalize text.dropWhile (· ≠ '>') = inner at past before
  generalize framed.dropWhile (· ≠ '>') = outer at past
  cases past with
  | cut => cases text.takeWhile (· ≠ '>') <;> exact .none
  | close => cases text.takeWhile (· ≠ '>') <;> exact .none
  | cons char past =>
    rw [before nofun]
    cases text.takeWhile (· ≠ '>') with
    | nil => exact .none
    | cons first others => exact .ite Iff.rfl (.some ⟨rfl, past⟩) .none

/-- A group with the name that is read. -/
def namedGroup (flags : Flags) (text : List Char) : Option (Opening × List Char) :=
  (groupName text).map fun found => (.group flags (.counted (some found.1)), found.2)

theorem namedGroup_again (frame : Framed text framed) :
    Again SameRead (namedGroup flags text) (namedGroup flags framed) := by
  refine (groupName_again frame).map ?_
  rintro ⟨name, rest⟩ ⟨_, behind⟩ ⟨rfl, left⟩
  exact ⟨rfl, left⟩

theorem opening_again (frame : Framed text framed) :
    Again SameRead (opening flags text) (opening flags framed) := by
  have within := frame.skip flags
  unfold opening
  generalize flags.skip text = inner at within
  generalize flags.skip framed = outer at within
  split
  · exact .none
  · exact .none
  · exact .none
  · exact .none
  · cases within with
    | cons _ within =>
      cases within with
      | cons _ within =>
        cases within with
        | cons _ within => exact namedGroup_again within
  -- A framed text is read by the same alternative as the text: no other one begins like it.
  · next equals bang =>
    cases within with
    | cons _ within =>
      cases within with
      | cons _ within =>
        split
        case h_6 same =>
          cases same
          exact namedGroup_again within
        case h_3 same =>
          cases same
          exact (within.not_prefix ['='] (by decide) equals rfl).elim
        case h_4 same =>
          cases same
          exact (within.not_prefix ['!'] (by decide) bang rfl).elim
        case h_7 angle same =>
          cases same
          exact (angle _ rfl).elim
        all_goals simp_all
  · next equals bang _ _ python angle =>
    cases within with
    | cons _ within =>
      split
      case h_7 same =>
        cases same
        refine (Flags.read_again flags [] within).bind ?_
        rintro ⟨inner, signs, last, rest⟩ ⟨_, _, _, behind⟩ ⟨rfl, rfl, rfl, left⟩
        exact .ite Iff.rfl (.some ⟨rfl, left⟩) (.ite Iff.rfl .none (.some ⟨rfl, left⟩))
      case h_1 same => exact (within.not_prefix ['='] (by decide) equals (List.cons.inj same).2).elim
      case h_2 same => exact (within.not_prefix ['!'] (by decide) bang (List.cons.inj same).2).elim
      case h_3 same => exact (within.not_prefix ['<'] (by decide) angle (List.cons.inj same).2).elim
      case h_4 same => exact (within.not_prefix ['<'] (by decide) angle (List.cons.inj same).2).elim
      case h_5 same => exact (within.not_prefix ['P', '<'] (by decide) python (List.cons.inj same).2).elim
      case h_6 same => exact (within.not_prefix ['<'] (by decide) angle (List.cons.inj same).2).elim
      case h_8 other => exact (other _ rfl).elim
  · next plain =>
    split
    case h_8 => exact .some ⟨rfl, within⟩
    all_goals exact (within.not_prefix ['?'] (by decide) plain rfl).elim

theorem atom_again (frame : Framed text framed) : Again SameRead (atom flags text) (atom flags framed) := by
  cases frame with
  | cut => exact .none
  | close => exact .none
  | cons char inner =>
    by_cases escape : char = '\\'
    · subst escape
      exact Escape.read_again inner
    · obtain ⟨found, single⟩ : ∃ found, ∀ text, atom flags (char :: text) = some (found, text) := by
        by_cases dot : char = '.'
        · exact ⟨.dot, fun _ => by rw [dot]; rfl⟩
        by_cases caret : char = '^'
        · exact ⟨_, fun _ => by rw [caret]; rfl⟩
        by_cases dollar : char = '$'
        · exact ⟨_, fun _ => by rw [dollar]; rfl⟩
        exact ⟨.literal char, fun _ => by simp [atom]⟩
      rw [single, single]
      exact .some ⟨rfl, inner⟩

/-- The same part and names are found in a group, and framed texts are left. -/
def SameClosed (first second : Closed) : Prop :=
  first.part = second.part ∧ first.names = second.names ∧ Framed first.rest second.rest

theorem body_again {fuel more : Nat} (enough : fuel ≤ more) (flags : Flags) (names : List (List Char))
    (group : Open) (frame : Framed text framed) :
    Again SameClosed (body fuel flags names group text) (body more flags names group framed) := by
  induction fuel generalizing more flags names group text framed with
  | zero => exact .none
  | succ fuel ih =>
    obtain ⟨more, rfl⟩ := Nat.exists_eq_add_of_le' (Nat.one_le_of_lt enough)
    have onward (flags : Flags) (names : List (List Char)) (group : Open) {text framed : List Char}
        (frame : Framed text framed) := ih (Nat.le_of_succ_le_succ enough) flags names group frame
    have within := frame.skip flags
    unfold body
    generalize flags.skip text = inner at within
    generalize flags.skip framed = outer at within
    split
    -- At the end of the text its group ends by the frame.
    · cases within with
      | cut => exact .some ⟨rfl, rfl, .cut⟩
      | close => exact .some ⟨rfl, rfl, .close⟩
    · cases within with
      | cons _ within => exact .some ⟨rfl, rfl, within.cons ')'⟩
    · cases within with
      | cons _ within => exact onward _ _ _ within
    · cases within with
      | cons _ within =>
        refine (opening_again within).follow fun opening _ _ left => ?_
        cases opening with
        | setFlags flags => exact onward _ _ _ left
        | group inner kind =>
          refine .ite Iff.rfl .none ((onward _ _ _ left).bind ?_)
          rintro ⟨part, names, rest⟩ ⟨_, _, behind⟩ ⟨rfl, rfl, left⟩
          dsimp only at left ⊢
          cases left with
          | cut => exact .none
          | close => exact .none
          | cons _ left => exact onward _ _ _ left
    · cases within with
      | cons _ within => exact (Bracket.read_again within).follow fun found _ _ left => onward _ _ _ left
    · cases within with
      | cons _ within => exact .given fun group => onward _ _ group (skipLazy_same within)
    · cases within with
      | cons _ within => exact .given fun group => onward _ _ group (skipLazy_same within)
    · cases within with
      | cons _ within => exact .given fun group => onward _ _ group (skipLazy_same within)
    · cases within with
      | cons _ within =>
        refine (bounds_again within).bind ?_
        rintro ⟨least, most, rest⟩ ⟨_, _, behind⟩ ⟨rfl, rfl, left⟩
        exact .given fun group => onward _ _ group left
    · next filled closes branches opens classes maybe star plus counted =>
      split
      case h_1 =>
        cases within
        exact (filled rfl).elim
      case h_2 =>
        cases within with
        | close => exact (filled rfl).elim
        | cons => exact (closes _ rfl).elim
      case h_3 => exact (within.not_prefix ['|'] (by decide) branches rfl).elim
      case h_4 => exact (within.not_prefix ['('] (by decide) opens rfl).elim
      case h_5 => exact (within.not_prefix ['['] (by decide) classes rfl).elim
      case h_6 => exact (within.not_prefix ['?'] (by decide) maybe rfl).elim
      case h_7 => exact (within.not_prefix ['*'] (by decide) star rfl).elim
      case h_8 => exact (within.not_prefix ['+'] (by decide) plus rfl).elim
      case h_9 => exact (within.not_prefix ['{'] (by decide) counted rfl).elim
      case h_10 =>
        exact (atom_again within).follow fun atom _ _ left => .given fun part => onward _ _ _ left

end Reader

end AppBundle.Pattern
