import AppBundle.Unicode.Blank

/-! # Pattern flags

Flags change how the pattern text behind them is read. In the extended mode blanks and comments
between the parts of a pattern are left out.
-/

namespace AppBundle.Pattern

/-- The modes in which pattern text is read. -/
structure Flags where
  ignoreCase : Bool
  multiLine : Bool
  dotAll : Bool
  carriage : Bool
  unicode : Bool
  extended : Bool
deriving DecidableEq, Repr

namespace Flags

/-- The modes at the start of a pattern. -/
def initial : Flags :=
  { ignoreCase := false, multiLine := false, dotAll := false, carriage := false, unicode := true,
    extended := false }

/-- The text behind a comment, which ends with its line. -/
def skipComment (text : List Char) : List Char := (text.dropWhile (· ≠ '\n')).drop 1

theorem length_skipComment_le (text : List Char) : (skipComment text).length ≤ text.length := by
  have := (List.dropWhile_sublist (· ≠ '\n') (l := text)).length_le
  simp only [skipComment, List.length_drop]
  omega

/-- The text behind leading blanks and comments. -/
def skipSpace : List Char → List Char
  | [] => []
  | char :: rest =>
    if Unicode.isBlank char then skipSpace rest
    else if char = '#' then skipSpace (skipComment rest)
    else char :: rest
termination_by text => text.length
decreasing_by
  · simp
  · have := length_skipComment_le rest; simp only [List.length_cons]; omega

/-- The text from its next significant character on. -/
def skip (flags : Flags) (text : List Char) : List Char :=
  if flags.extended then skipSpace text else text

/-- The character that counts as the next one when a hyphen is judged. In the extended mode blanks
are passed over, and one comment sign with the blanks behind it. -/
def peek (flags : Flags) (text : List Char) : Option Char :=
  if flags.extended then
    match text.dropWhile Unicode.isBlank with
    | '#' :: rest => (rest.dropWhile Unicode.isBlank).head?.or text.head?
    | rest => rest.head?.or text.head?
  else text.head?

/-- Turn the flag of a letter on or off. Exchanging greedy and lazy repetition has no bearing on
whether there is a match. -/
def set? (flags : Flags) (letter : Char) (on : Bool) : Option Flags :=
  match letter with
  | 'i' => some { flags with ignoreCase := on }
  | 'm' => some { flags with multiLine := on }
  | 's' => some { flags with dotAll := on }
  | 'R' => some { flags with carriage := on }
  | 'u' => some { flags with unicode := on }
  | 'x' => some { flags with extended := on }
  | 'U' => some flags
  | _ => none

/-- A list of flags that ends in a colon or a closing parenthesis: the new flags, how many signs the
list has, the character that ends it and the text behind that. No letter is given twice, and a
hyphen is given at most once and not at the end. `seen` holds what was given before. -/
def read (flags : Flags) (seen : List Char) : List Char →
    Option (Flags × Nat × Char × List Char)
  | [] => none
  | char :: rest =>
    if char = ':' ∨ char = ')' then
      if seen.head? = some '-' then none else some (flags, seen.length, char, rest)
    else if char ∈ seen then none
    else if char = '-' then read flags (char :: seen) rest
    else
      match flags.set? char (decide ('-' ∉ seen)) with
      | none => none
      | some flags => read flags (char :: seen) rest

end Flags

end AppBundle.Pattern
