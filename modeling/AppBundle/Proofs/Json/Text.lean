import AppBundle.Json.Reader
import AppBundle.Json.Writer
import Mathlib.Tactic.SplitIfs

/-! # Reading what was written

Every JSON value is read back from its compact text, with the form of its numbers and the order of its
members. What is shown for each kind of value holds in front of any further text that does not go on
with a number, since this is how values stand inside others. The reader may nest its calls as deep as the
text is long.
-/

namespace AppBundle.Json

section Strings

variable {char : Char} {after rest : List Char}

theorem readStringChars_escape (escape : readEscape after = some (char, rest)) :
    readStringChars ('\\' :: after) =
      (readStringChars rest).map fun (chars, rest) => (char :: chars, rest) := by
  rw [readStringChars]
  split
  · next absent => cases escape.symm.trans absent
  · next found => cases escape.symm.trans found; rfl

theorem readStringChars_plain (noQuote : char ≠ '"') (noBackslash : char ≠ '\\')
    (visible : ¬ char.toNat < 0x20) :
    readStringChars (char :: rest) =
      (readStringChars rest).map fun (chars, rest) => (char :: chars, rest) := by
  rw [readStringChars, if_neg visible]
  · exact noQuote
  · exact noBackslash

theorem hexValue?_hexDigit (value : Nat) : hexValue? (hexDigit value) = some (value % 16) := by
  have digits : ∀ digit < 16, hexValue? (Nat.digitChar digit) = some digit := by decide
  exact digits _ (Nat.mod_lt _ (by decide))

/-- A control character is read back from its four digits. -/
theorem readEscape_control (control : char.toNat < 0x20) :
    readEscape ('u' :: '0' :: '0' :: hexDigit (char.toNat / 16) :: hexDigit char.toNat :: rest) =
      some (char, rest) := by
  have zero : hexValue? '0' = some 0 := by decide
  have value : ((0 * 16 + 0) * 16 + char.toNat / 16 % 16) * 16 + char.toNat % 16 = char.toNat := by
    omega
  have read : readUnit ('0' :: '0' :: hexDigit (char.toNat / 16) :: hexDigit char.toNat :: rest) =
      some (char.toNat, rest) := by
    simp only [readUnit, zero, hexValue?_hexDigit, Option.bind_eq_bind, Option.bind_some, value,
      Option.pure_def]
  have low : ¬ (0xD800 ≤ char.toNat ∧ char.toNat < 0xDC00) := by omega
  have high : ¬ (0xDC00 ≤ char.toNat ∧ char.toNat < 0xE000) := by omega
  simp only [readEscape, readCodePoint, read, Option.bind_eq_bind, Option.bind_some, if_neg low,
    if_neg high, Char.ofNat_toNat, Option.pure_def]

/-- A character is read back from its written form. -/
theorem readStringChars_escapeChar (char : Char) (rest : List Char) :
    readStringChars (escapeChar char ++ rest) =
      (readStringChars rest).map fun (chars, rest) => (char :: chars, rest) := by
  unfold escapeChar
  split_ifs with quote backslash backspace feed newline carriage tab control
  · subst quote; exact readStringChars_escape rfl
  · subst backslash; exact readStringChars_escape rfl
  · subst backspace; exact readStringChars_escape rfl
  · subst feed; exact readStringChars_escape rfl
  · subst newline; exact readStringChars_escape rfl
  · subst carriage; exact readStringChars_escape rfl
  · subst tab; exact readStringChars_escape rfl
  · exact readStringChars_escape (readEscape_control control)
  · exact readStringChars_plain quote backslash control

theorem readStringChars_flatMap_escapeChar (chars rest : List Char) :
    readStringChars (chars.flatMap escapeChar ++ '"' :: rest) = some (chars, rest) := by
  induction chars with
  | nil => rw [List.flatMap_nil, List.nil_append, readStringChars]
  | cons char chars ih =>
    rw [List.flatMap_cons, List.append_assoc, readStringChars_escapeChar, ih]
    rfl

/-- Behind its opening quote a string is read back. -/
theorem readString_written (text : String) (rest : List Char) :
    readString (text.toList.flatMap escapeChar ++ '"' :: rest) = some (text, rest) := by
  rw [readString, readStringChars_flatMap_escapeChar]
  simp

end Strings

section Numbers

variable {rest : List Char}

/-- What stands behind a number does not go on with it. -/
def Stops (rest : List Char) : Prop :=
  ∀ char ∈ rest.head?, char.isDigit = false ∧ char ≠ '.' ∧ char ≠ 'e' ∧ char ≠ 'E'

theorem digitsValue_toDigits (value : Nat) : digitsValue (Nat.toDigits 10 value) = value :=
  Nat.ofDigitChars_eq_foldl.symm.trans Nat.ofDigitChars_ten_toDigits

/-- Only zero is written with a zero in front. -/
theorem head?_toDigits {value : Nat} (positive : 0 < value) :
    (Nat.toDigits 10 value).head? ≠ some '0' := by
  induction value using Nat.strongRecOn with
  | ind value ih =>
    by_cases single : value < 10
    · rw [Nat.toDigits_of_lt_base single]
      simp only [List.head?_cons, ne_eq, Option.some.injEq, Nat.digitChar_eq_zero]
      omega
    · have front := ih (value / 10) (by omega) (by omega)
      obtain ⟨first, digits, split⟩ := List.exists_cons_of_ne_nil (Nat.toDigits_ne_nil (n := value / 10))
      rw [Nat.toDigits_of_base_le (by decide) (Nat.not_lt.1 single), split]
      rw [split] at front
      exact front

theorem readDigits_toDigits (value : Nat) (stop : ∀ char ∈ rest.head?, char.isDigit = false) :
    readDigits (Nat.toDigits 10 value ++ rest) = some (Nat.toDigits 10 value, rest) := by
  have digits : ∀ char ∈ Nat.toDigits 10 value, char.isDigit = true := fun char member =>
    Nat.isDigit_of_mem_toDigits (by decide) (by decide) member
  have taken : rest.takeWhile Char.isDigit = [] ∧ rest.dropWhile Char.isDigit = rest := by
    cases rest with
    | nil => exact ⟨rfl, rfl⟩
    | cons char rest => simp [stop char rfl]
  rw [readDigits, List.takeWhile_append_of_pos digits, List.dropWhile_append_of_pos digits, taken.1,
    taken.2, List.append_nil]
  simp [Nat.toDigits_ne_nil]

theorem Stops.digit (stops : Stops rest) : ∀ char ∈ rest.head?, char.isDigit = false :=
  fun char first => (stops char first).1

theorem toDigits_eq_cons (value : Nat) :
    ∃ first digits, Nat.toDigits 10 value = first :: digits ∧ first.isDigit = true := by
  obtain ⟨first, digits, split⟩ := List.exists_cons_of_ne_nil (Nat.toDigits_ne_nil (n := value) (b := 10))
  refine ⟨first, digits, split, ?_⟩
  exact Nat.isDigit_of_mem_toDigits (b := 10) (n := value) (by decide) (by decide)
    (split ▸ List.mem_cons_self ..)

theorem readSigned_renderInteger (value : Int) (stop : ∀ char ∈ rest.head?, char.isDigit = false) :
    readSigned (renderInteger value ++ rest) = some (value, rest) := by
  have read := readDigits_toDigits value.natAbs stop
  unfold renderInteger
  split
  · have value_eq : -(value.natAbs : Int) = value := by omega
    rw [List.cons_append, readSigned, read]
    simp only [Option.map_some, digitsValue_toDigits, value_eq]
  · have value_eq : (value.natAbs : Int) = value := by omega
    obtain ⟨first, digits, split, digit⟩ := toDigits_eq_cons value.natAbs
    have noSign {sign : Char} {tail : List Char} (plain : sign.isDigit = false) :
        Nat.toDigits 10 value.natAbs ++ rest ≠ sign :: tail := by
      intro same
      rw [split, List.cons_append, List.cons.injEq] at same
      rw [← same.1, digit] at plain
      cases plain
    rw [readSigned, read]
    · simp only [Option.map_some, digitsValue_toDigits, value_eq]
    · exact fun _ same => noSign (by decide) same
    · exact fun _ same => noSign (by decide) same

theorem readFraction_of_ne (noPoint : rest.head? ≠ some '.') : readFraction rest = some (none, rest) := by
  unfold readFraction
  split
  · exact absurd rfl noPoint
  · rfl

theorem readExponent_of_ne (lower : rest.head? ≠ some 'e') (upper : rest.head? ≠ some 'E') :
    readExponent rest = some (none, rest) := by
  unfold readExponent
  split
  · exact absurd rfl lower
  · exact absurd rfl upper
  · rfl

/-- Digits are read with the fraction and the exponent behind them. -/
theorem readMagnitude_toDigits (negative : Bool) (value : Nat) {after behind : List Char}
    {fraction : Option (List Char)} {exponent : Option Int}
    (stop : ∀ char ∈ after.head?, char.isDigit = false)
    (fractionRead : readFraction after = some (fraction, behind))
    (exponentRead : readExponent behind = some (exponent, rest)) :
    readMagnitude negative (Nat.toDigits 10 value ++ after) =
      some (number (.ofParts negative (Nat.toDigits 10 value) fraction exponent), rest) := by
  have fine : ¬ ((Nat.toDigits 10 value).head? = some '0' ∧ (Nat.toDigits 10 value).length ≠ 1) := by
    rintro ⟨zero, long⟩
    rcases Nat.eq_zero_or_pos value with rfl | positive
    · exact long rfl
    · exact head?_toDigits positive zero
  simp only [readMagnitude, readDigits_toDigits value stop, Option.bind_eq_bind, Option.bind_some,
    if_neg fine, fractionRead, exponentRead, Option.pure_def]

theorem readNumber_toDigits (value : Nat) (after : List Char) :
    readNumber (Nat.toDigits 10 value ++ after) = readMagnitude false (Nat.toDigits 10 value ++ after) := by
  obtain ⟨first, digits, split, digit⟩ := toDigits_eq_cons value
  rw [split, List.cons_append, readNumber]
  rintro tail same
  obtain ⟨rfl, -⟩ := List.cons.inj same
  exact absurd digit (by decide)

/-- A number is read back in the form in which it was written. -/
theorem readNumber_renderNumber (value : Number) (stops : Stops rest) :
    readNumber (renderNumber value ++ rest) = some (number value, rest) := by
  cases value with
  | integer value =>
    have fraction : readFraction rest = some (none, rest) :=
      readFraction_of_ne fun first => (stops _ first).2.1 rfl
    have exponent : readExponent rest = some (none, rest) :=
      readExponent_of_ne (fun first => (stops _ first).2.2.1 rfl) fun first => (stops _ first).2.2.2 rfl
    have read (negative : Bool) :=
      readMagnitude_toDigits negative value.natAbs stops.digit fraction exponent
    rw [renderNumber, renderInteger]
    split
    · next negative =>
      have nonzero : value.natAbs ≠ 0 := by omega
      have value_eq : -(value.natAbs : Int) = value := by omega
      rw [List.cons_append, readNumber, read]
      simp only [Number.ofParts, digitsValue_toDigits, if_true, if_neg nonzero, value_eq]
    · next positive =>
      have value_eq : (value.natAbs : Int) = value := by omega
      rw [readNumber_toDigits, read]
      simp only [Number.ofParts, digitsValue_toDigits, value_eq, Bool.false_eq_true, if_false]
  | decimal negative digits exponent =>
    have fraction : readFraction ('e' :: (renderInteger exponent ++ rest)) =
        some (none, 'e' :: (renderInteger exponent ++ rest)) := readFraction_of_ne (by simp)
    have exponentRead : readExponent ('e' :: (renderInteger exponent ++ rest)) =
        some (some exponent, rest) := by
      rw [readExponent, readSigned_renderInteger exponent stops.digit]
      rfl
    have read (negative : Bool) :=
      readMagnitude_toDigits negative digits (by simp) fraction exponentRead
    have parts (negative : Bool) : Number.ofParts negative (Nat.toDigits 10 digits) none (some exponent) =
        .decimal negative digits exponent := by
      simp [Number.ofParts, digitsValue_toDigits]
    rw [renderNumber, List.append_assoc, List.append_assoc, List.cons_append]
    cases negative with
    | true => rw [if_pos rfl, List.singleton_append, readNumber, read, parts]
    | false =>
      rw [if_neg (by decide), List.nil_append, readNumber_toDigits, read, parts]

end Numbers

section Values

variable {fuel : Nat} {rest : List Char}

theorem skipBlanks_cons {head : Char} (visible : isBlank head = false) (tail : List Char) :
    skipBlanks (head :: tail) = head :: tail :=
  List.dropWhile_cons_of_neg (by simp [visible])

theorem renderNumber_eq_cons (value : Number) :
    ∃ first digits, renderNumber value = first :: digits ∧ (first = '-' ∨ first.isDigit = true) := by
  cases value with
  | integer value =>
    rw [renderNumber, renderInteger]
    split
    · exact ⟨_, _, rfl, .inl rfl⟩
    · obtain ⟨first, digits, split, digit⟩ := toDigits_eq_cons value.natAbs
      exact ⟨first, digits, split, .inr digit⟩
  | decimal negative digits exponent =>
    cases negative with
    | true => exact ⟨_, _, rfl, .inl rfl⟩
    | false =>
      obtain ⟨first, tail, split, digit⟩ := toDigits_eq_cons digits
      refine ⟨first, tail ++ 'e' :: renderInteger exponent, ?_, .inr digit⟩
      rw [renderNumber, split]
      rfl

theorem ne_of_number {first other : Char} (begins : first = '-' ∨ first.isDigit = true)
    (plain : other ≠ '-' ∧ other.isDigit = false) : first ≠ other := by
  rintro rfl
  rcases begins with same | digit
  · exact plain.1 same
  · cases plain.2.symm.trans digit

theorem visible_of_number {first : Char} (begins : first = '-' ∨ first.isDigit = true) :
    isBlank first = false := by
  simp only [isBlank, Bool.or_eq_false_iff, decide_eq_false_iff_not]
  exact ⟨⟨⟨ne_of_number begins (by decide), ne_of_number begins (by decide)⟩,
    ne_of_number begins (by decide)⟩, ne_of_number begins (by decide)⟩

/-- A value that begins like a number is read as a number. -/
theorem readValue_of_number {first : Char} (begins : first = '-' ∨ first.isDigit = true) :
    readValue (fuel + 1) (first :: rest) = readNumber (first :: rest) := by
  rw [readValue, skipBlanks_cons (visible_of_number begins)]
  split
  case h_7 => rfl
  all_goals
    next same => exact absurd (List.cons.inj same).1 (ne_of_number begins (by decide))

/-- A value begins with a character that is neither blank nor the end of an array. -/
theorem renderChars_eq_cons (value : Json) :
    ∃ head tail, renderChars value = head :: tail ∧ isBlank head = false ∧ head ≠ ']' := by
  cases value with
  | null => exact ⟨_, _, renderChars.eq_1, by decide, by decide⟩
  | bool value =>
    cases value with
    | true => exact ⟨_, _, renderChars.eq_2, by decide, by decide⟩
    | false => exact ⟨_, _, renderChars.eq_3, by decide, by decide⟩
  | number value =>
    obtain ⟨first, digits, split, begins⟩ := renderNumber_eq_cons value
    rw [renderChars, split]
    refine ⟨first, digits, rfl, visible_of_number begins, ?_⟩
    rintro rfl
    exact absurd begins (by decide)
  | string text => exact ⟨_, _, by rw [renderChars, renderString, List.cons_append], by decide, by decide⟩
  | array items =>
    cases items with
    | nil => exact ⟨_, _, by rw [renderChars], by decide, by decide⟩
    | cons first items => exact ⟨_, _, by rw [renderChars, List.cons_append], by decide, by decide⟩
  | object members =>
    cases members with
    | nil => exact ⟨_, _, by rw [renderChars], by decide, by decide⟩
    | cons first members =>
      obtain ⟨name, first⟩ := first
      exact ⟨_, _, by rw [renderChars, List.cons_append, List.cons_append], by decide, by decide⟩

theorem skipBlanks_renderChars (value : Json) (rest : List Char) :
    skipBlanks (renderChars value ++ rest) = renderChars value ++ rest := by
  obtain ⟨head, tail, split, visible, -⟩ := renderChars_eq_cons value
  rw [split, List.cons_append, skipBlanks_cons visible]

theorem stops_renderItems (items : List Json) (rest : List Char) : Stops (renderItems items ++ rest) := by
  cases items with
  | nil => simp [renderItems, Stops]
  | cons item items => simp [renderItems, Stops]

theorem stops_renderMembers (members : List (String × Json)) (rest : List Char) :
    Stops (renderMembers members ++ rest) := by
  cases members with
  | nil => simp [renderMembers, Stops]
  | cons member members => simp [renderMembers, Stops]

theorem readValue_array {first : Json} {items : List Json}
    (head : readValue fuel (renderChars first ++ (renderItems items ++ rest)) =
      some (first, renderItems items ++ rest))
    (tail : readItems fuel (renderItems items ++ rest) = some (items, rest)) :
    readValue (fuel + 1) (renderChars (array (first :: items)) ++ rest) =
      some (array (first :: items), rest) := by
  obtain ⟨char, chars, split, -, inside⟩ := renderChars_eq_cons first
  rw [renderChars, List.append_assoc, List.cons_append, readValue, skipBlanks_cons (by decide)]
  simp only [skipBlanks_renderChars]
  split
  · next close =>
    rw [split, List.cons_append] at close
    exact absurd (List.cons.inj close).1 inside
  · simp only [head, tail, Option.bind_eq_bind, Option.bind_some, Option.pure_def]

theorem readMember_written {name : String} {value : Json}
    (read : readValue fuel (renderChars value ++ rest) = some (value, rest)) :
    readMember (fuel + 1) (renderString name ++ (':' :: renderChars value ++ rest)) =
      some ((name, value), rest) := by
  rw [renderString, List.append_assoc, List.cons_append, readMember, skipBlanks_cons (by decide)]
  simp only [List.singleton_append, readString_written, Option.bind_eq_bind, Option.bind_some]
  rw [List.cons_append, skipBlanks_cons (by decide)]
  simp only [read, Option.bind_some, Option.pure_def]

theorem readValue_object {name : String} {first : Json} {members : List (String × Json)}
    (head : readMember fuel (renderString name ++
      (':' :: renderChars first ++ (renderMembers members ++ rest))) =
        some ((name, first), renderMembers members ++ rest))
    (tail : readMembers fuel (renderMembers members ++ rest) = some (members, rest)) :
    readValue (fuel + 1) (renderChars (object ((name, first) :: members)) ++ rest) =
      some (object ((name, first) :: members), rest) := by
  have quote : ∃ text, renderString name ++
      (':' :: renderChars first ++ (renderMembers members ++ rest)) = '"' :: text :=
    ⟨_, by rw [renderString, List.cons_append, List.cons_append]⟩
  obtain ⟨text, split⟩ := quote
  have whole : renderChars (object ((name, first) :: members)) ++ rest = '{' :: '"' :: text := by
    rw [← split]
    simp [renderChars]
  rw [split] at head
  rw [whole, readValue, skipBlanks_cons (by decide)]
  simp only [skipBlanks_cons (show isBlank '"' = false from by decide)]
  split
  · next close => cases close
  · simp only [head, tail, Option.bind_eq_bind, Option.bind_some, Option.pure_def]

-- By induction on the value. A call may nest one call less than the one around it, and its text is shorter
-- by at least one character, so that the length of the text bounds the nesting at every depth.
mutual

/-- Every value is read back in front of what does not go on with a number. -/
theorem readValue_renderChars (value : Json) (fuel : Nat) {rest : List Char} (stops : Stops rest)
    (enough : (renderChars value).length ≤ fuel) :
    readValue fuel (renderChars value ++ rest) = some (value, rest) := by
  obtain _ | fuel := fuel
  · obtain ⟨head, tail, split, -, -⟩ := renderChars_eq_cons value
    rw [split] at enough
    cases enough
  match value with
  | null => rw [renderChars, List.cons_append, readValue, skipBlanks_cons (by decide)]; rfl
  | bool true => rw [renderChars, List.cons_append, readValue, skipBlanks_cons (by decide)]; rfl
  | bool false => rw [renderChars, List.cons_append, readValue, skipBlanks_cons (by decide)]; rfl
  | number value =>
    obtain ⟨first, digits, split, begins⟩ := renderNumber_eq_cons value
    rw [renderChars, split, List.cons_append, readValue_of_number begins, ← List.cons_append, ← split]
    exact readNumber_renderNumber value stops
  | string text =>
    rw [renderChars, renderString, List.append_assoc, List.cons_append, readValue,
      skipBlanks_cons (by decide)]
    simp only [List.singleton_append, readString_written, Option.map_some]
  | array [] => rw [renderChars, List.cons_append, readValue, skipBlanks_cons (by decide)]; rfl
  | array (first :: items) =>
    rw [renderChars] at enough
    simp only [List.length_append, List.length_cons] at enough
    have head := readValue_renderChars first fuel (stops_renderItems items rest) (by omega)
    have tail := readItems_renderItems items fuel rest (by omega)
    exact readValue_array head tail
  | object [] => rw [renderChars, List.cons_append, readValue, skipBlanks_cons (by decide)]; rfl
  | object ((name, first) :: members) =>
    rw [renderChars] at enough
    simp only [List.length_append, List.length_cons] at enough
    obtain _ | fuel := fuel
    · omega
    have head := readValue_renderChars first fuel (stops_renderMembers members rest) (by omega)
    have tail := readMembers_renderMembers members (fuel + 1) rest (by omega)
    exact readValue_object (readMember_written head) tail

theorem readItems_renderItems (items : List Json) (fuel : Nat) (rest : List Char)
    (enough : (renderItems items).length ≤ fuel) :
    readItems fuel (renderItems items ++ rest) = some (items, rest) := by
  obtain _ | fuel := fuel
  · cases items <;> cases enough
  match items with
  | [] => rw [renderItems, List.singleton_append, readItems, skipBlanks_cons (by decide)]; rfl
  | item :: items =>
    rw [renderItems] at enough
    simp only [List.length_append, List.length_cons] at enough
    have head := readValue_renderChars item fuel (stops_renderItems items rest) (by omega)
    have tail := readItems_renderItems items fuel rest (by omega)
    rw [renderItems, List.append_assoc, List.cons_append, readItems, skipBlanks_cons (by decide)]
    simp only [head, tail, Option.bind_eq_bind, Option.bind_some, Option.pure_def]

theorem readMembers_renderMembers (members : List (String × Json)) (fuel : Nat) (rest : List Char)
    (enough : (renderMembers members).length ≤ fuel) :
    readMembers fuel (renderMembers members ++ rest) = some (members, rest) := by
  obtain _ | fuel := fuel
  · cases members <;> cases enough
  match members with
  | [] => rw [renderMembers, List.singleton_append, readMembers, skipBlanks_cons (by decide)]; rfl
  | (name, value) :: members =>
    rw [renderMembers] at enough
    simp only [List.length_append, List.length_cons] at enough
    obtain _ | fuel := fuel
    · omega
    have head := readValue_renderChars value fuel (stops_renderMembers members rest) (by omega)
    have tail := readMembers_renderMembers members (fuel + 1) rest (by omega)
    rw [renderMembers, List.append_assoc, List.cons_append, List.cons_append, List.append_assoc,
      readMembers, skipBlanks_cons (by decide)]
    simp only [readMember_written head, tail, Option.bind_eq_bind, Option.bind_some, Option.pure_def]

end

/-- The text of a value is read as the value. -/
theorem parse?_render (value : Json) : parse? (render value) = some value := by
  have stops : Stops [] := by simp [Stops]
  have read := readValue_renderChars value (2 * (renderChars value).length + 2) stops (by omega)
  rw [List.append_nil] at read
  simp only [parse?, render, String.toList_ofList, read]
  rfl

/-- Different values have different texts. -/
theorem render_injective : Function.Injective render := by
  intro first second same
  have read := parse?_render first
  rw [same, parse?_render] at read
  exact (Option.some.inj read).symm

end Values

end AppBundle.Json
