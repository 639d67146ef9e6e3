import AppBundle.Json.Basic

/-! # Reading JSON text

The reader accepts the JSON grammar and nothing else: blanks are space, tab, line feed and carriage
return, a string holds no raw control character and no unpaired surrogate, and nothing but blanks
follows the value. Members keep their order and repetitions.
-/

namespace AppBundle.Json

/-- Whether a character may stand between two tokens. -/
def isBlank (char : Char) : Bool := char = ' ' || char = '\t' || char = '\n' || char = '\r'

/-- The text behind leading blanks. -/
def skipBlanks (text : List Char) : List Char := text.dropWhile isBlank

/-- The value of a hexadecimal digit of either case. -/
def hexValue? (char : Char) : Option Nat :=
  if '0' ≤ char ∧ char ≤ '9' then some (char.toNat - '0'.toNat)
  else if 'a' ≤ char ∧ char ≤ 'f' then some (char.toNat - 'a'.toNat + 10)
  else if 'A' ≤ char ∧ char ≤ 'F' then some (char.toNat - 'A'.toNat + 10)
  else none

/-- Four hexadecimal digits and the text behind them. -/
def readUnit : List Char → Option (Nat × List Char)
  | a :: b :: c :: d :: rest => do
    let a ← hexValue? a
    let b ← hexValue? b
    let c ← hexValue? c
    let d ← hexValue? d
    return (((a * 16 + b) * 16 + c) * 16 + d, rest)
  | _ => none

/-- The character of a code unit, or of a surrogate pair whose second half is escaped as well. -/
def readCodePoint (text : List Char) : Option (Char × List Char) := do
  let (unit, rest) ← readUnit text
  if 0xD800 ≤ unit ∧ unit < 0xDC00 then
    match rest with
    | '\\' :: 'u' :: low => do
      let (second, rest) ← readUnit low
      if 0xDC00 ≤ second ∧ second < 0xE000 then
        return (Char.ofNat (0x10000 + (unit - 0xD800) * 0x400 + (second - 0xDC00)), rest)
      else none
    | _ => none
  else if 0xDC00 ≤ unit ∧ unit < 0xE000 then none
  else return (Char.ofNat unit, rest)

/-- The character that an escape stands for; the text begins behind the backslash. -/
def readEscape : List Char → Option (Char × List Char)
  | '"' :: rest => some ('"', rest)
  | '\\' :: rest => some ('\\', rest)
  | '/' :: rest => some ('/', rest)
  | 'b' :: rest => some ('\x08', rest)
  | 'f' :: rest => some ('\x0c', rest)
  | 'n' :: rest => some ('\n', rest)
  | 'r' :: rest => some ('\r', rest)
  | 't' :: rest => some ('\t', rest)
  | 'u' :: rest => readCodePoint rest
  | _ => none

theorem length_le_of_readUnit {text rest : List Char} {unit : Nat}
    (read : readUnit text = some (unit, rest)) : rest.length ≤ text.length := by
  unfold readUnit at read
  split at read
  · simp only [bind, Option.bind_eq_some_iff, pure, Option.some.injEq, Prod.mk.injEq] at read
    obtain ⟨_, _, _, _, _, _, _, _, _, rfl⟩ := read
    simp only [List.length_cons]
    omega
  · cases read

theorem length_le_of_readCodePoint {text rest : List Char} {char : Char}
    (read : readCodePoint text = some (char, rest)) : rest.length ≤ text.length := by
  obtain ⟨⟨unit, behind⟩, first, read⟩ := Option.bind_eq_some_iff.1 read
  have shorter := length_le_of_readUnit first
  dsimp only at read
  split at read
  · split at read
    · obtain ⟨⟨second, remaining⟩, next, read⟩ := Option.bind_eq_some_iff.1 read
      have := length_le_of_readUnit next
      dsimp only at read
      split at read
      · simp only [pure, Option.some.injEq, Prod.mk.injEq] at read
        simp only [List.length_cons] at shorter
        rw [← read.2]
        omega
      · cases read
    · cases read
  · split at read
    · cases read
    · simp only [pure, Option.some.injEq, Prod.mk.injEq] at read
      rw [← read.2]
      exact shorter

theorem length_lt_of_readEscape {text rest : List Char} {char : Char}
    (read : readEscape text = some (char, rest)) : rest.length < text.length := by
  unfold readEscape at read
  split at read
  case h_9 => exact Nat.lt_succ_of_le (length_le_of_readCodePoint read)
  case h_10 => cases read
  all_goals (cases read; simp)

/-- The characters up to the closing quote, and the text behind it. -/
def readStringChars : List Char → Option (List Char × List Char)
  | [] => none
  | '"' :: rest => some ([], rest)
  | '\\' :: rest =>
    match _escape : readEscape rest with
    | none => none
    | some (char, rest) => (readStringChars rest).map fun (chars, rest) => (char :: chars, rest)
  | char :: rest =>
    if char.toNat < 0x20 then none
    else (readStringChars rest).map fun (chars, rest) => (char :: chars, rest)
termination_by text => text.length
decreasing_by
  · have := length_lt_of_readEscape _escape; simp only [List.length_cons]; omega
  · simp

/-- A string behind its opening quote. -/
def readString (text : List Char) : Option (String × List Char) :=
  (readStringChars text).map fun (chars, rest) => (String.ofList chars, rest)

/-- The value of a list of decimal digits. -/
def digitsValue (digits : List Char) : Nat :=
  digits.foldl (fun value char => 10 * value + (char.toNat - '0'.toNat)) 0

/-- A non-empty run of decimal digits and the text behind it. -/
def readDigits (text : List Char) : Option (List Char × List Char) :=
  let digits := text.takeWhile Char.isDigit
  if digits.isEmpty then none else some (digits, text.dropWhile Char.isDigit)

/-- The digits behind the point, if there is one. -/
def readFraction : List Char → Option (Option (List Char) × List Char)
  | '.' :: rest => (readDigits rest).map fun (digits, rest) => (some digits, rest)
  | rest => some (none, rest)

/-- The digits of an exponent with its optional sign. -/
def readSigned : List Char → Option (Int × List Char)
  | '-' :: rest => (readDigits rest).map fun (digits, rest) => (-(digitsValue digits : Int), rest)
  | '+' :: rest => (readDigits rest).map fun (digits, rest) => ((digitsValue digits : Int), rest)
  | rest => (readDigits rest).map fun (digits, rest) => ((digitsValue digits : Int), rest)

/-- The exponent, if there is one. -/
def readExponent : List Char → Option (Option Int × List Char)
  | 'e' :: rest => (readSigned rest).map fun (exponent, rest) => (some exponent, rest)
  | 'E' :: rest => (readSigned rest).map fun (exponent, rest) => (some exponent, rest)
  | rest => some (none, rest)

/-- The number of the parts of its written form. -/
def Number.ofParts (negative : Bool) (whole : List Char) (fraction : Option (List Char))
    (exponent : Option Int) : Number :=
  match fraction, exponent with
  | none, none =>
    let value := digitsValue whole
    if negative then if value = 0 then .decimal true 0 0 else .integer (-(value : Int))
    else .integer value
  | fraction, exponent =>
    let behind := fraction.getD []
    .decimal negative (digitsValue (whole ++ behind)) (exponent.getD 0 - behind.length)

/-- A number without its sign. Only zero begins with a zero. -/
def readMagnitude (negative : Bool) (text : List Char) : Option (Json × List Char) := do
  let (whole, rest) ← readDigits text
  if whole.head? = some '0' ∧ whole.length ≠ 1 then none
  else
    let (fraction, rest) ← readFraction rest
    let (exponent, rest) ← readExponent rest
    return (number (.ofParts negative whole fraction exponent), rest)

/-- A number. -/
def readNumber : List Char → Option (Json × List Char)
  | '-' :: rest => readMagnitude true rest
  | text => readMagnitude false text

mutual

/-- A value and the text behind it. The first argument bounds the nesting of calls. -/
def readValue : Nat → List Char → Option (Json × List Char)
  | 0, _ => none
  | fuel + 1, text =>
    match skipBlanks text with
    | 'n' :: 'u' :: 'l' :: 'l' :: rest => some (null, rest)
    | 't' :: 'r' :: 'u' :: 'e' :: rest => some (bool true, rest)
    | 'f' :: 'a' :: 'l' :: 's' :: 'e' :: rest => some (bool false, rest)
    | '"' :: rest => (readString rest).map fun (text, rest) => (string text, rest)
    | '[' :: rest =>
      match skipBlanks rest with
      | ']' :: rest => some (array [], rest)
      | rest => do
        let (first, rest) ← readValue fuel rest
        let (others, rest) ← readItems fuel rest
        return (array (first :: others), rest)
    | '{' :: rest =>
      match skipBlanks rest with
      | '}' :: rest => some (object [], rest)
      | rest => do
        let (first, rest) ← readMember fuel rest
        let (others, rest) ← readMembers fuel rest
        return (object (first :: others), rest)
    | rest => readNumber rest

/-- The items behind the first one, up to the end of the array. -/
def readItems : Nat → List Char → Option (List Json × List Char)
  | 0, _ => none
  | fuel + 1, text =>
    match skipBlanks text with
    | ']' :: rest => some ([], rest)
    | ',' :: rest => do
      let (item, rest) ← readValue fuel rest
      let (others, rest) ← readItems fuel rest
      return (item :: others, rest)
    | _ => none

/-- A name, a colon and a value. -/
def readMember : Nat → List Char → Option ((String × Json) × List Char)
  | 0, _ => none
  | fuel + 1, text =>
    match skipBlanks text with
    | '"' :: rest => do
      let (name, rest) ← readString rest
      match skipBlanks rest with
      | ':' :: rest => do
        let (value, rest) ← readValue fuel rest
        return ((name, value), rest)
      | _ => none
    | _ => none

/-- The members behind the first one, up to the end of the object. -/
def readMembers : Nat → List Char → Option (List (String × Json) × List Char)
  | 0, _ => none
  | fuel + 1, text =>
    match skipBlanks text with
    | '}' :: rest => some ([], rest)
    | ',' :: rest => do
      let (member, rest) ← readMember fuel rest
      let (others, rest) ← readMembers fuel rest
      return (member :: others, rest)
    | _ => none

end

/-- The value of a whole text. Every nested call of the reader follows a character that was read, or
precedes one, so twice the length bounds the nesting. -/
def parse? (text : String) : Option Json :=
  let chars := text.toList
  match readValue (2 * chars.length + 2) chars with
  | some (value, rest) => if (skipBlanks rest).isEmpty then some value else none
  | none => none

end AppBundle.Json
