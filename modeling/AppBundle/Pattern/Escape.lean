import AppBundle.Pattern.Expr
import AppBundle.Pattern.Flags
import AppBundle.Pattern.Property.Query

/-! # Escapes in patterns

Behind a backslash stands a character taken literally, a code point in hexadecimal, a class of
characters, a property of characters or a condition on the place.
-/

namespace AppBundle.Pattern

/-- One element of a pattern text, before it is known where it stands. -/
inductive Atom where
  | literal (char : Char)
  | escaped (name : EscapedClass) (negated : Bool)
  /-- The characters with a property, or those without it. -/
  | property (set : CharSet) (negated : Bool)
  | holds (assertion : Assertion)
  | dot
deriving DecidableEq, Repr

namespace Escape

/-- Whether a character stands for itself behind a backslash: every ASCII character but letters,
digits and angle brackets. -/
def isPlain (char : Char) : Bool :=
  char.toNat < 0x80 && !char.isAlphanum && char != '<' && char != '>'

/-- The value of a hexadecimal digit of either case. -/
def hexValue? (char : Char) : Option Nat :=
  if char.isDigit then some (char.toNat - '0'.toNat)
  else if 'a' ≤ char ∧ char ≤ 'f' then some (char.toNat - 'a'.toNat + 10)
  else if 'A' ≤ char ∧ char ≤ 'F' then some (char.toNat - 'A'.toNat + 10)
  else none

/-- The character with a code point, if there is one. -/
def charOf? (code : Nat) : Option Char :=
  if code.isValidChar then some (Char.ofNat code) else none

/-- Exactly `count` hexadecimal digits, read on to a value. -/
def readHex (flags : Flags) (value : Nat) : Nat → List Char → Option (Nat × List Char)
  | 0, text => some (value, text)
  | count + 1, text =>
    match text with
    | [] => none
    | char :: rest => do
      let digit ← hexValue? char
      readHex flags (16 * value + digit) count (flags.skip rest)

/-- Hexadecimal digits up to a closing brace. The first argument bounds their number. -/
def readBracedHex (flags : Flags) (value : Nat) (empty : Bool) :
    Nat → List Char → Option (Nat × List Char)
  | 0, _ => none
  | fuel + 1, text =>
    match text with
    | [] => none
    | '}' :: rest => if empty then none else some (value, flags.skip rest)
    | char :: rest => do
      let digit ← hexValue? char
      readBracedHex flags (16 * value + digit) false fuel (flags.skip rest)

/-- A code point of a fixed number of digits, or of any number between braces. Two digits name a
byte in the ASCII mode, where only the ASCII bytes are characters. -/
def readCode (flags : Flags) (count : Nat) (text : List Char) : Option (Atom × List Char) :=
  match flags.skip text with
  | '{' :: rest => do
    let (code, rest) ← readBracedHex flags 0 true (rest.length + 1) (flags.skip rest)
    return (.literal (← charOf? code), rest)
  | rest => do
    let (code, rest) ← readHex flags 0 count rest
    if count = 2 ∧ 0x80 ≤ code ∧ !flags.unicode then none
    else return (.literal (← charOf? code), rest)

/-- Letters and hyphens, with what is insignificant between them left out. The first argument bounds
their number. -/
def readName (flags : Flags) : Nat → List Char → List Char × List Char
  | 0, text => ([], text)
  | fuel + 1, text =>
    match text with
    | [] => ([], [])
    | char :: rest =>
      if char.isAlpha || char = '-' then
        let (name, rest) := readName flags fuel (flags.skip rest)
        (char :: name, rest)
      else ([], text)

/-- The condition that a name between braces behind `\b` stands for. -/
def boundary? (unicode : Bool) (name : List Char) : Option Assertion :=
  if name = "start".toList then some (.wordStart unicode)
  else if name = "end".toList then some (.wordEnd unicode)
  else if name = "start-half".toList then some (.wordStartHalf unicode)
  else if name = "end-half".toList then some (.wordEndHalf unicode)
  else none

/-- What `\b` stands for. A brace behind it begins a name if a letter or a hyphen follows, and a
repetition otherwise. -/
def readBoundary (flags : Flags) (text : List Char) : Option (Atom × List Char) :=
  match text with
  | '{' :: inside =>
    let (name, rest) := readName flags (inside.length + 1) (flags.skip inside)
    match name, rest with
    | [], [] => none
    | [], _ => some (.holds (.wordBoundary flags.unicode), text)
    | name, '}' :: rest => (boundary? flags.unicode name).map fun found => (.holds found, rest)
    | _, _ => none
  | _ => some (.holds (.wordBoundary flags.unicode), text)

/-- The characters up to a closing brace, with what is insignificant between them left out. The
first argument bounds their number. -/
def readBraced (flags : Flags) : Nat → List Char → Option (List Char × List Char)
  | 0, _ => none
  | fuel + 1, text =>
    match text with
    | [] => none
    | '}' :: rest => some ([], rest)
    | char :: rest => do
      let (name, rest) ← readBraced flags fuel (flags.skip rest)
      return (char :: name, rest)

/-- What stands before and behind the first place of a sign in a name. -/
def dividedBy? (sign : List Char) : List Char → Option (List Char × List Char)
  | [] => none
  | char :: rest =>
    if sign.isPrefixOf (char :: rest) then some ([], (char :: rest).drop sign.length)
    else (dividedBy? sign rest).map fun (before, behind) => (char :: before, behind)

/-- What a name between braces asks for. The sign `!=` asks for the same as the others do. -/
def query (name : List Char) : PropertyQuery :=
  match (dividedBy? ['!', '='] name).or ((dividedBy? [':'] name).or (dividedBy? ['='] name)) with
  | some (property, value) => .valued property value
  | none => .named name

/-- What a property is asked for by: a single character, or a name between braces. -/
def readQuery (flags : Flags) (text : List Char) : Option (PropertyQuery × List Char) :=
  match flags.skip text with
  | [] => none
  | '{' :: inside =>
    (readBraced flags (inside.length + 1) (flags.skip inside)).map fun (name, rest) =>
      (query name, rest)
  | char :: rest => if char = '\\' then none else some (.named [char], rest)

/-- A property of characters. The ASCII mode has none, because they reach beyond ASCII. -/
def readProperty (flags : Flags) (negated : Bool) (text : List Char) :
    Option (Atom × List Char) := do
  let (query, rest) ← readQuery flags text
  if flags.unicode then return (.property (← query.set?) negated, rest) else none

/-- What stands behind a backslash. -/
def read (flags : Flags) : List Char → Option (Atom × List Char)
  | [] => none
  | char :: rest =>
    if isPlain char then some (.literal char, rest)
    else
      match char with
      | 'x' => readCode flags 2 rest
      | 'u' => readCode flags 4 rest
      | 'U' => readCode flags 8 rest
      | 'd' => some (.escaped .digit false, rest)
      | 'D' => some (.escaped .digit true, rest)
      | 's' => some (.escaped .blank false, rest)
      | 'S' => some (.escaped .blank true, rest)
      | 'w' => some (.escaped .word false, rest)
      | 'W' => some (.escaped .word true, rest)
      | 'p' => readProperty flags false rest
      | 'P' => readProperty flags true rest
      | 'a' => some (.literal '\x07', rest)
      | 'f' => some (.literal '\x0c', rest)
      | 't' => some (.literal '\t', rest)
      | 'n' => some (.literal '\n', rest)
      | 'r' => some (.literal '\r', rest)
      | 'v' => some (.literal '\x0b', rest)
      | 'A' => some (.holds .textStart, rest)
      | 'z' => some (.holds .textEnd, rest)
      | 'b' => readBoundary flags rest
      | 'B' => some (.holds (.noWordBoundary flags.unicode), rest)
      | '<' => some (.holds (.wordStart flags.unicode), rest)
      | '>' => some (.holds (.wordEnd flags.unicode), rest)
      | _ => none

end Escape

end AppBundle.Pattern
