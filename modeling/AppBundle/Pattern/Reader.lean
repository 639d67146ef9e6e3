import AppBundle.Pattern.Bracket
import AppBundle.Pattern.Size
import AppBundle.Unicode.Alphabetic
import AppBundle.Unicode.Numeric

/-! # Reading patterns

A pattern text is read from left to right into an expression. Inside a group, `Open` holds the
alternatives that are finished and the parts of the one at hand. Flags set inside a group hold up to
its end. A text with an unknown escape, a look-around, a reference to a group, an unbalanced bracket
or a repetition of nothing is no pattern; nor is one that is nested too deeply or stands for too
large an automaton.
-/

namespace AppBundle.Pattern

/-- A part of a pattern: its meaning, the nesting depth of its text, and whether a repetition may
follow it. -/
structure Part where
  expr : Expr
  depth : Nat
  repeatable : Bool

/-- The kinds of parentheses. A counted group has a number, and a name if it is given one. -/
inductive GroupKind where
  | plain
  | counted (name : Option (List Char))

/-- The name of a group, if it has one. -/
def GroupKind.name? : GroupKind → Option (List Char)
  | plain => none
  | counted name => name

namespace Part

/-- A part that is not nested. -/
def plain (expr : Expr) : Part := ⟨expr, 0, true⟩

/-- Parts in a row. A single part is not nested by this. -/
def sequence : List Part → Part
  | [] => ⟨.empty, 0, true⟩
  | [part] => part
  | parts =>
    ⟨parts.foldr (fun part rest => .seq part.expr rest) .empty,
      parts.foldr (fun part depth => max part.depth depth) 0 + 1, true⟩

/-- Parts to choose from. A single part is not nested by this. -/
def choice : List Part → Part
  | [] => ⟨.empty, 0, true⟩
  | [part] => part
  | first :: others =>
    ⟨(first :: others).foldr (fun part rest => .either part.expr rest) .never,
      others.foldl (fun depth part => max depth part.depth) first.depth + 1, true⟩

/-- A part in parentheses. -/
def grouped (kind : GroupKind) (part : Part) : Part :=
  match kind with
  | .plain => ⟨part.expr, part.depth + 1, true⟩
  | .counted _ => ⟨.group part.expr, part.depth + 1, true⟩

/-- A part that may match several times in a row. -/
def repeated (part : Part) (least : Nat) (most : Option Nat) : Part :=
  ⟨.repeated part.expr least most, part.depth + 1, true⟩

end Part

/-- A group that is being read: its finished alternatives and the parts of the one at hand, last
ones first. -/
structure Open where
  branches : List Part
  parts : List Part

namespace Open

/-- The start of a group. -/
def fresh : Open := ⟨[], []⟩

/-- Add a part to the alternative at hand. -/
def push (frame : Open) (part : Part) : Open := { frame with parts := part :: frame.parts }

/-- Begin the next alternative. -/
def branch (frame : Open) : Open := ⟨.sequence frame.parts.reverse :: frame.branches, []⟩

/-- The part of the whole group. -/
def close (frame : Open) : Part := .choice frame.branch.branches.reverse

/-- Repeat the last part, if there is one that can be repeated. -/
def repeatLast (frame : Open) (least : Nat) (most : Option Nat) : Option Open :=
  match frame.parts with
  | part :: parts =>
    if part.repeatable then some { frame with parts := part.repeated least most :: parts } else none
  | [] => none

end Open

/-- How deeply a pattern text may be nested. -/
def depthLimit : Nat := 250

/-- The greatest count of a repetition. -/
def countLimit : Nat := 0xFFFFFFFF

namespace Reader

/-- Decimal digits, with what is insignificant between them left out. The first argument bounds
their number. -/
def digits (flags : Flags) : Nat → List Char → List Char × List Char
  | 0, text => ([], text)
  | fuel + 1, text =>
    match text with
    | [] => ([], [])
    | char :: rest =>
      if char.isDigit then
        let (found, rest) := digits flags fuel (flags.skip rest)
        (char :: found, rest)
      else ([], text)

/-- A count with blanks around it. -/
def count (flags : Flags) (text : List Char) : Option (Nat × List Char) :=
  let text := text.dropWhile Unicode.isBlank
  let (found, rest) := digits flags text.length text
  let value := found.foldl (fun value char => 10 * value + (char.toNat - '0'.toNat)) 0
  if found.isEmpty || countLimit < value then none else some (value, rest.dropWhile Unicode.isBlank)

/-- The text behind the mark of a lazy repetition, if it is there. -/
def skipLazy : List Char → List Char
  | '?' :: rest => rest
  | text => text

/-- The bounds of a counted repetition behind its opening brace. -/
def bounds (flags : Flags) (text : List Char) : Option (Nat × Option Nat × List Char) := do
  let (least, rest) ← count flags (flags.skip text)
  match rest with
  | '}' :: rest => return (least, some least, skipLazy (flags.skip rest))
  | ',' :: rest =>
    match flags.skip rest with
    | '}' :: rest => return (least, none, skipLazy (flags.skip rest))
    | rest => do
      let (most, rest) ← count flags rest
      match rest with
      | '}' :: rest =>
        if least ≤ most then return (least, some most, skipLazy (flags.skip rest)) else none
      | _ => none
  | _ => none

/-- Whether a character may stand in the name of a group. -/
def inGroupName (first : Bool) (char : Char) : Bool :=
  if first then char = '_' || Unicode.isAlphabetic char
  else
    char = '_' || char = '.' || char = '[' || char = ']' || Unicode.isAlphabetic char ||
      Unicode.isNumeric char

/-- The name of a group up to the closing bracket. -/
def groupName (text : List Char) : Option (List Char × List Char) :=
  match text.takeWhile (· ≠ '>'), text.dropWhile (· ≠ '>') with
  | first :: others, _ :: rest =>
    if inGroupName true first && others.all (inGroupName false) then some (first :: others, rest)
    else none
  | _, _ => none

/-- What an opening parenthesis begins. -/
inductive Opening where
  /-- Flags for the rest of the surrounding group. -/
  | setFlags (flags : Flags)
  /-- A group and the flags inside it. -/
  | group (flags : Flags) (kind : GroupKind)

/-- What stands behind an opening parenthesis. -/
def opening (flags : Flags) (text : List Char) : Option (Opening × List Char) :=
  match flags.skip text with
  | '?' :: '=' :: _ => none
  | '?' :: '!' :: _ => none
  | '?' :: '<' :: '=' :: _ => none
  | '?' :: '<' :: '!' :: _ => none
  | '?' :: 'P' :: '<' :: rest =>
    (groupName rest).map fun (name, rest) => (.group flags (.counted (some name)), rest)
  | '?' :: '<' :: rest =>
    (groupName rest).map fun (name, rest) => (.group flags (.counted (some name)), rest)
  | '?' :: rest => do
    let (inner, signs, last, rest) ← flags.read [] rest
    if last = ':' then return (.group inner .plain, rest)
    else if signs = 0 then none
    else return (.setFlags inner, rest)
  | rest => some (.group flags (.counted none), rest)

/-- A character taken literally, in every case variant if the mode asks for that. -/
def literal (flags : Flags) (char : Char) : Expr :=
  .oneOf (OpenClass.folded flags (.single char))

/-- Any character, or any but a line end. -/
def anyChar (flags : Flags) : Expr :=
  let lineEnds : CharSet :=
    if flags.dotAll then .nothing
    else if flags.carriage then .union (.single '\n') (.single '\r')
    else .single '\n'
  .oneOf (.complement lineEnds)

/-- The part that an element of the text stands for. In the ASCII mode there is no sign for any
character, because it would match parts of characters. -/
def part? (flags : Flags) : Atom → Option Part
  | .literal char => some (.plain (literal flags char))
  | .escaped name negated =>
    (OpenClass.signed? flags negated (.escaped name flags.unicode)).map fun set =>
      .plain (.oneOf set)
  | .property set negated =>
    (OpenClass.signed? flags negated (OpenClass.folded flags set)).map fun set =>
      .plain (.oneOf set)
  | .holds assertion => some (.plain (.holds assertion))
  | .dot => if flags.unicode then some (.plain (anyChar flags)) else none

/-- The condition that a caret stands for. -/
def caret (flags : Flags) : Assertion :=
  if flags.multiLine then .lineStart flags.carriage else .textStart

/-- The condition that a dollar sign stands for. -/
def dollar (flags : Flags) : Assertion :=
  if flags.multiLine then .lineEnd flags.carriage else .textEnd

/-- One element of the text outside classes. -/
def atom (flags : Flags) : List Char → Option (Atom × List Char)
  | [] => none
  | '\\' :: rest => Escape.read flags rest
  | '.' :: rest => some (.dot, rest)
  | '^' :: rest => some (.holds (caret flags), rest)
  | '$' :: rest => some (.holds (dollar flags), rest)
  | char :: rest => some (.literal char, rest)

/-- The end of a group: the part read, the group names used so far, and the text from the closing
parenthesis on, or nothing at the end of the pattern. -/
structure Closed where
  part : Part
  names : List (List Char)
  rest : List Char

/-- The rest of a group. The first argument bounds the number of steps. -/
def body : Nat → Flags → List (List Char) → Open → List Char → Option Closed
  | 0, _, _, _, _ => none
  | fuel + 1, flags, names, frame, text =>
    match flags.skip text with
    | [] => some ⟨frame.close, names, []⟩
    | ')' :: rest => some ⟨frame.close, names, ')' :: rest⟩
    | '|' :: rest => body fuel flags names frame.branch rest
    | '(' :: rest => do
      let (opening, rest) ← opening flags rest
      match opening with
      | .setFlags flags => body fuel flags names (frame.push ⟨.empty, 0, false⟩) rest
      | .group inner kind =>
        if kind.name?.any (· ∈ names) then none
        else do
          let closed ← body fuel inner (kind.name?.toList ++ names) .fresh rest
          match closed.rest with
          | [] => none
          | _ :: rest => body fuel flags closed.names (frame.push (closed.part.grouped kind)) rest
    | '[' :: rest => do
      let (found, rest) ← Bracket.read flags rest
      body fuel flags names (frame.push ⟨.oneOf found.set, found.depth, true⟩) rest
    | '?' :: rest => do
      body fuel flags names (← frame.repeatLast 0 (some 1)) (skipLazy rest)
    | '*' :: rest => do
      body fuel flags names (← frame.repeatLast 0 none) (skipLazy rest)
    | '+' :: rest => do
      body fuel flags names (← frame.repeatLast 1 none) (skipLazy rest)
    | '{' :: rest => do
      let (least, most, rest) ← bounds flags rest
      body fuel flags names (← frame.repeatLast least most) rest
    | rest => do
      let (atom, rest) ← atom flags rest
      body fuel flags names (frame.push (← part? flags atom)) rest

end Reader

/-- The expression of a pattern text. -/
def parse? (text : List Char) : Option Expr := do
  let closed ← Reader.body (text.length + 1) .initial [] .fresh text
  let expr := closed.part.expr
  if closed.rest = [] ∧ closed.part.depth ≤ depthLimit ∧ expr.fits then return expr else none

end AppBundle.Pattern
