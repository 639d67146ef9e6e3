import AppBundle.Proofs.Pattern.Frame

/-! # Escapes and classes in a frame

Escapes and bracketed classes are read from a framed text as from the text. A class does not end behind the
text, and neither does the name of one.
-/

namespace AppBundle.Pattern

variable {text framed : List Char} {flags : Flags}

namespace Escape

theorem readHex_again (value count : Nat) (frame : Framed text framed) :
    Again SameRead (readHex flags value count text) (readHex flags value count framed) := by
  induction count generalizing value text framed with
  | zero => exact .some ⟨rfl, frame⟩
  | succ count ih =>
    cases frame with
    | cut => exact .none
    | close => exact .none
    | cons char inner => exact .given fun digit => ih _ (inner.skip flags)

theorem readBracedHex_again (value : Nat) (empty : Bool) {fuel more : Nat} (enough : fuel ≤ more)
    (frame : Framed text framed) :
    Again SameRead (readBracedHex flags value empty fuel text)
      (readBracedHex flags value empty more framed) := by
  induction fuel generalizing value empty more text framed with
  | zero => exact .none
  | succ fuel ih =>
    obtain ⟨more, rfl⟩ := Nat.exists_eq_add_of_le' (Nat.one_le_of_lt enough)
    cases frame with
    | cut => exact .none
    | close => exact .none
    | cons char inner =>
      by_cases brace : char = '}'
      · subst brace
        show Again SameRead (if empty then none else _) (if empty then none else _)
        split
        · exact .none
        · exact .some ⟨rfl, inner.skip flags⟩
      · have digit (fuel : Nat) (text : List Char) :
            readBracedHex flags value empty (fuel + 1) (char :: text) = (do
              let digit ← hexValue? char
              readBracedHex flags (16 * value + digit) false fuel (flags.skip text)) := by
          simp [readBracedHex]
        rw [digit, digit]
        exact .given fun digit => ih _ _ (Nat.le_of_succ_le_succ enough) (inner.skip flags)

theorem readCode_again (count : Nat) (frame : Framed text framed) :
    Again SameRead (readCode flags count text) (readCode flags count framed) := by
  unfold readCode
  have within := frame.skip flags
  generalize flags.skip text = inner at within
  generalize flags.skip framed = outer at within
  split
  · next inside =>
    cases within with
    | cons _ behind =>
      refine (readBracedHex_again 0 true (Nat.succ_le_succ behind.length_le) (behind.skip flags)).follow ?_
      exact fun code _ _ left => .given fun char => .some ⟨rfl, left⟩
  · next other =>
    split
    · exact (within.not_prefix ['{'] (by decide) other rfl).elim
    · exact (readHex_again 0 count within).follow fun code _ _ left =>
        .ite Iff.rfl .none (.given fun char => .some ⟨rfl, left⟩)

theorem readName_eq_run (fuel : Nat) (text : List Char) :
    readName flags fuel text = flags.run (fun char => char.isAlpha || char = '-') fuel text := by
  induction fuel generalizing text with
  | zero => rfl
  | succ fuel ih =>
    cases text with
    | nil => rfl
    | cons char rest =>
      rw [readName, Flags.run, ih]

/-- The condition that a name stands for, with what is behind it. The text begins with the brace. -/
def boundaryOf (flags : Flags) (text : List Char) : List Char × List Char → Option (Atom × List Char)
  | (name, rest) =>
    match name, rest with
    | [], [] => none
    | [], _ => some (.holds (.wordBoundary flags.unicode), text)
    | name, '}' :: rest => (boundary? flags.unicode name).map fun found => (.holds found, rest)
    | _, _ => none

theorem boundaryOf_again (frame : Framed text framed) {first second : List Char × List Char}
    (same : SameRead first second) :
    Again SameRead (boundaryOf flags text first) (boundaryOf flags framed second) := by
  obtain ⟨name, rest⟩ := first
  obtain ⟨_, behind⟩ := second
  obtain ⟨rfl, left⟩ := same
  cases left with
  | cut => cases name <;> exact .none
  | close => cases name <;> exact .none
  | cons char left =>
    cases name with
    | nil => exact .some ⟨rfl, frame⟩
    | cons first name =>
      by_cases brace : char = '}'
      · subst brace
        exact (Again.refl _).map fun _ _ same => ⟨congrArg Atom.holds same, left⟩
      · have refused (text rest : List Char) :
            boundaryOf flags text (first :: name, char :: rest) = none := by simp [boundaryOf, brace]
        rw [refused]
        exact .none

theorem readBoundary_again (frame : Framed text framed) :
    Again SameRead (readBoundary flags text) (readBoundary flags framed) := by
  have braced (inside : List Char) : readBoundary flags ('{' :: inside) =
      boundaryOf flags ('{' :: inside) (readName flags (inside.length + 1) (flags.skip inside)) := rfl
  by_cases named : ∃ inside, text = '{' :: inside
  · obtain ⟨inside, rfl⟩ := named
    cases frame with
    | cons _ inner =>
      rw [braced, braced, readName_eq_run, readName_eq_run]
      have bounded := Nat.le_succ_of_le (flags.length_skip_le inside)
      exact boundaryOf_again (inner.cons '{')
        (flags.run_same (by decide) bounded (Nat.succ_le_succ inner.length_le) (inner.skip flags))
  · unfold readBoundary
    split
    · exact absurd ⟨_, rfl⟩ named
    · split
      · exact absurd (frame.exists_prefix ['{'] (by decide)) named
      · exact .some ⟨rfl, frame⟩

theorem readBraced_again {fuel more : Nat} (enough : fuel ≤ more) (frame : Framed text framed) :
    Again SameRead (readBraced flags fuel text) (readBraced flags more framed) := by
  induction fuel generalizing more text framed with
  | zero => exact .none
  | succ fuel ih =>
    obtain ⟨more, rfl⟩ := Nat.exists_eq_add_of_le' (Nat.one_le_of_lt enough)
    cases frame with
    | cut => exact .none
    | close => exact .none
    | cons char inner =>
      by_cases brace : char = '}'
      · subst brace
        exact .some ⟨rfl, inner⟩
      · have letter (fuel : Nat) (text : List Char) :
            readBraced flags (fuel + 1) (char :: text) = (do
              let (name, rest) ← readBraced flags fuel (flags.skip text)
              return (char :: name, rest)) := by
          simp [readBraced]
        rw [letter, letter]
        exact (ih (Nat.le_of_succ_le_succ enough) (inner.skip flags)).follow fun name _ _ left =>
          .some ⟨rfl, left⟩

theorem readQuery_again (frame : Framed text framed) :
    Again SameRead (readQuery flags text) (readQuery flags framed) := by
  unfold readQuery
  have within := frame.skip flags
  generalize flags.skip text = inner at within
  generalize flags.skip framed = outer at within
  cases within with
  | cut => exact .none
  | close => exact .none
  | cons char behind =>
    by_cases brace : char = '{'
    · subst brace
      refine (readBraced_again (Nat.succ_le_succ behind.length_le) (behind.skip flags)).map ?_
      rintro ⟨name, rest⟩ ⟨_, _⟩ ⟨rfl, left⟩
      exact ⟨rfl, left⟩
    · simp only
      exact .ite Iff.rfl .none (.some ⟨rfl, behind⟩)

theorem readProperty_again (negated : Bool) (frame : Framed text framed) :
    Again SameRead (readProperty flags negated text) (readProperty flags negated framed) :=
  (readQuery_again frame).follow fun _ _ _ left =>
    .ite Iff.rfl (.given fun _ => .some ⟨rfl, left⟩) .none

theorem read_again (frame : Framed text framed) : Again SameRead (read flags text) (read flags framed) := by
  cases frame with
  | cut => exact .none
  | close => exact .none
  | cons char inner =>
    show Again SameRead (if isPlain char then _ else _) (if isPlain char then _ else _)
    split
    · exact .some ⟨rfl, inner⟩
    · split
      all_goals first
        | exact .none
        | exact .some ⟨rfl, inner⟩
        | exact readCode_again _ inner
        | exact readBoundary_again inner
        | exact readProperty_again _ inner

end Escape

theorem OpenClass.leadingHyphens_same {fuel more : Nat} (frame : OpenClass) (bounded : text.length ≤ fuel)
    (enough : fuel ≤ more) (framing : Framed text framed) :
    SameRead (leadingHyphens flags fuel frame text) (leadingHyphens flags more frame framed) := by
  induction fuel generalizing more frame text framed with
  | zero =>
    obtain rfl := List.length_eq_zero_iff.1 (Nat.le_zero.1 bounded)
    cases framing with
    | cut => cases more <;> exact ⟨rfl, .cut⟩
    | close => cases more <;> exact ⟨rfl, .close⟩
  | succ fuel ih =>
    obtain ⟨more, rfl⟩ := Nat.exists_eq_add_of_le' (Nat.one_le_of_lt enough)
    cases framing with
    | cut => exact ⟨rfl, .cut⟩
    | close => exact ⟨rfl, .close⟩
    | cons char inner =>
      by_cases hyphen : char = '-'
      · subst hyphen
        have shorter := Nat.le_trans (flags.length_skip_le _) (Nat.le_of_succ_le_succ bounded)
        exact ih _ shorter (Nat.le_of_succ_le_succ enough) (inner.skip flags)
      · have plain (fuel : Nat) (text : List Char) :
            leadingHyphens flags fuel frame (char :: text) = (frame, char :: text) := by
          simp [leadingHyphens, hyphen]
        rw [plain, plain]
        exact ⟨rfl, inner.cons char⟩

/-- Whether a class begins with the mark of a complement, and what is behind it. -/
def negation (behind : List Char → List Char) : List Char → Bool × List Char
  | '^' :: rest => (true, behind rest)
  | text => (false, text)

theorem negation_same (frame : Framed text framed) {behind : List Char → List Char}
    (onward : ∀ {text framed}, Framed text framed → Framed (behind text) (behind framed)) :
    SameRead (negation behind text) (negation behind framed) := by
  cases frame with
  | cut => exact ⟨rfl, .cut⟩
  | close => exact ⟨rfl, .close⟩
  | cons char inner =>
    by_cases mark : char = '^'
    · subst mark
      exact ⟨rfl, onward inner⟩
    · have plain (text : List Char) : negation behind (char :: text) = (false, char :: text) := by
        simp [negation, mark]
      rw [plain, plain]
      exact ⟨rfl, inner.cons char⟩

/-- A closing bracket in the first place of a class as a character. -/
def OpenClass.leadingBracket (flags : Flags) : OpenClass × List Char → OpenClass × List Char
  | (frame, text) =>
    match frame.items, text with
    | [], ']' :: rest => (frame.push ⟨.single ']', 0⟩, flags.skip rest)
    | _, text => (frame, text)

theorem OpenClass.leadingBracket_same {first second : OpenClass × List Char}
    (same : SameRead first second) :
    SameRead (leadingBracket flags first) (leadingBracket flags second) := by
  obtain ⟨frame, text⟩ := first
  obtain ⟨_, framed⟩ := second
  obtain ⟨rfl, framing⟩ := same
  unfold leadingBracket
  dsimp only at framing ⊢
  split
  · next inside empty =>
    cases framing with
    | cons _ inner =>
      rw [empty]
      exact ⟨rfl, inner.skip flags⟩
  · next rest other =>
    split
    · next behind empty =>
      exact (framing.not_prefix [']'] (by decide) (other · empty) rfl).elim
    · exact ⟨rfl, framing⟩

/-- A class begins with the mark of a complement, hyphens and a closing bracket, each of them if it is
there. -/
theorem OpenClass.start_eq (flags : Flags) (text : List Char) : start flags text =
    leadingBracket flags
      (leadingHyphens flags (negation flags.skip (flags.skip text)).2.length
        ⟨(negation flags.skip (flags.skip text)).1, none, []⟩
        (negation flags.skip (flags.skip text)).2) := rfl

theorem OpenClass.start_same (flags : Flags) (frame : Framed text framed) :
    SameRead (start flags text) (start flags framed) := by
  obtain ⟨mark, rest⟩ : SameRead _ _ := negation_same (frame.skip flags) (Framed.skip · flags)
  rw [start_eq, start_eq, mark]
  exact leadingBracket_same (leadingHyphens_same _ (Nat.le_refl _) rest.length_le rest)

namespace Bracket

/-- A class whose name begins the text. -/
def named? : Bool × List Char → Option ((NamedClass × Bool) × List Char)
  | (negated, text) =>
    match text.dropWhile (· ≠ ':') with
    | ':' :: ']' :: rest =>
      (NamedClass.ofName? (text.takeWhile (· ≠ ':'))).map fun name => ((name, negated), rest)
    | _ => none

theorem named?_again {first second : Bool × List Char} (same : SameRead first second) :
    Again SameRead (named? first) (named? second) ∧ (named? first = none → named? second = none) := by
  obtain ⟨negated, text⟩ := first
  obtain ⟨_, framed⟩ := second
  obtain ⟨rfl, frame⟩ := same
  dsimp only at frame
  have past := frame.dropWhile (p := (· ≠ ':')) .cut
  have before := frame.takeWhile_eq (p := (· ≠ ':'))
  unfold named?
  dsimp only
  generalize text.dropWhile (· ≠ ':') = inner at past before
  generalize framed.dropWhile (· ≠ ':') = outer at past
  split
  · next rest =>
    cases past with
    | cons _ past =>
      cases past with
      | cons _ left =>
        rw [before nofun]
        cases NamedClass.ofName? (text.takeWhile (· ≠ ':')) with
        | none => exact ⟨.none, id⟩
        | some name => exact ⟨.some ⟨rfl, left⟩, nofun⟩
  · next other =>
    refine ⟨.none, fun _ => ?_⟩
    split
    · exact (past.not_prefix [':', ']'] (by decide) other rfl).elim
    · rfl

/-- A class with a name is read again, and none ends behind the text. -/
theorem namedClass?_again (frame : Framed text framed) :
    Again SameRead (namedClass? text) (namedClass? framed) ∧
      (namedClass? text = none → namedClass? framed = none) := by
  cases frame with
  | cut => exact ⟨.none, fun _ => rfl⟩
  | close => exact ⟨.none, fun _ => rfl⟩
  | cons char inner =>
    by_cases colon : char = ':'
    · subst colon
      exact named?_again (negation_same inner id)
    · have unnamed (text : List Char) : namedClass? (char :: text) = none := by
        simp [namedClass?, colon]
      rw [unnamed, unnamed]
      exact ⟨.none, id⟩

theorem atom_again (frame : Framed text framed) : Again SameRead (atom flags text) (atom flags framed) := by
  cases frame with
  | cut => exact .none
  | close => exact .none
  | cons char inner =>
    by_cases escape : char = '\\'
    · subst escape
      exact Escape.read_again inner
    · have literal (text : List Char) : atom flags (char :: text) = some (.literal char, text) := by
        simp [atom]
      rw [literal, literal]
      exact .some ⟨rfl, inner⟩

theorem element_again (frame : Framed text framed) :
    Again SameRead (element flags text) (element flags framed) := by
  unfold element
  refine (atom_again frame).follow fun first rest behind left => ?_
  have within := left.skip flags
  dsimp only
  generalize flags.skip rest = inner at within
  generalize flags.skip behind = outer at within
  split
  · exact .none
  · next inside =>
    cases within with
    | cons _ within =>
      have bracket := within.peek_iff flags (by decide +kernel : Unicode.isBlank ']' = false)
      have hyphen := within.peek_iff flags (by decide +kernel : Unicode.isBlank '-' = false)
      refine .ite (or_congr (bracket (by decide) (by decide)) (hyphen (by decide) (by decide))) ?_ ?_
      · exact .given fun set => .some ⟨rfl, within.cons '-'⟩
      · exact (atom_again (within.skip flags)).follow fun second _ _ left =>
          .given fun low => .given fun high => .ite Iff.rfl (.some ⟨rfl, left⟩) .none
  · next filled other =>
    cases within with
    | cut => exact absurd rfl filled
    | close => exact absurd rfl filled
    | cons char within =>
      split
      · next same => cases same
      · next same =>
        cases same
        exact absurd rfl (other _)
      · exact .given fun set => .some ⟨rfl, within.cons char⟩

theorem body_again {fuel more : Nat} (enough : fuel ≤ more) (frame : OpenClass)
    (framing : Framed text framed) :
    Again SameRead (body flags fuel frame text) (body flags more frame framed) := by
  induction fuel generalizing more frame text framed with
  | zero => exact .none
  | succ fuel ih =>
    obtain ⟨more, rfl⟩ := Nat.exists_eq_add_of_le' (Nat.one_le_of_lt enough)
    have onward (frame : OpenClass) {text framed : List Char} (framing : Framed text framed) :=
      ih (Nat.le_of_succ_le_succ enough) frame framing
    have within := framing.skip flags
    unfold body
    generalize flags.skip text = inner at within
    generalize flags.skip framed = outer at within
    split
    · exact .none
    · next inside =>
      cases within with
      | @cons _ _ behind within =>
        obtain ⟨again, unnamed⟩ := namedClass?_again within
        cases found : namedClass? inside with
        | some value =>
          obtain ⟨⟨_, left⟩, foundAgain, rfl, rest⟩ := again.exists_of_some found
          simp only [foundAgain]
          exact .given fun set => onward _ rest
        | none =>
          simp only [unnamed found]
          obtain ⟨same, inner⟩ := OpenClass.start_same flags within
          rw [same]
          exact (onward _ inner).follow fun item _ _ left => onward _ left
    · next inside =>
      cases within with
      | cons _ within => exact (Again.refl _).map fun _ _ same => ⟨same, within⟩
    · next inside =>
      cases within with
      | cons _ within =>
        cases within with
        | cons _ within => exact onward _ within
    · next inside =>
      cases within with
      | cons _ within =>
        cases within with
        | cons _ within => exact onward _ within
    · next inside =>
      cases within with
      | cons _ within =>
        cases within with
        | cons _ within => exact onward _ within
    · next filled opens closes intersects subtracts excludes =>
      split
      · cases within
        exact (filled rfl).elim
      · exact (within.not_prefix ['['] (by decide) opens rfl).elim
      · exact (within.not_prefix [']'] (by decide) closes rfl).elim
      · exact (within.not_prefix ['&', '&'] (by decide) intersects rfl).elim
      · exact (within.not_prefix ['-', '-'] (by decide) subtracts rfl).elim
      · exact (within.not_prefix ['~', '~'] (by decide) excludes rfl).elim
      · exact (element_again within).follow fun item _ _ left => onward _ left

theorem read_again (frame : Framed text framed) : Again SameRead (read flags text) (read flags framed) := by
  obtain ⟨same, inner⟩ := OpenClass.start_same flags frame
  unfold read
  dsimp only
  rw [same]
  exact body_again (Nat.succ_le_succ frame.length_le) _ inner

end Bracket

end AppBundle.Pattern
