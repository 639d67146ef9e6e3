import AppBundle.Pattern.Escape

/-! # Bracketed classes

A class lists characters, ranges, named classes and nested classes, and joins such lists by set
operators that bind equally and from the left. Every part knows how deeply it is nested, because
patterns nested too deeply are refused. In the ASCII mode every part has to hold ASCII characters
only.
-/

namespace AppBundle.Pattern

/-- A set and the nesting depth of the text that it was read from. -/
structure NestedSet where
  set : CharSet
  depth : Nat
deriving DecidableEq, Repr

/-- A set operator. -/
inductive SetOperator where
  | intersection
  | difference
  | symmetricDifference
deriving DecidableEq, Repr

/-- A class that is being read: whether its complement is meant, the operand and the operator on the
left of the list at hand, and the elements of that list, last one first. -/
structure OpenClass where
  negated : Bool
  left : Option (NestedSet × SetOperator)
  items : List NestedSet

namespace OpenClass

/-- Add an element to the list at hand. -/
def push (frame : OpenClass) (item : NestedSet) : OpenClass :=
  { frame with items := item :: frame.items }

/-- The set of the list at hand. -/
def listed (frame : OpenClass) : NestedSet :=
  match frame.items with
  | [] => ⟨.nothing, 0⟩
  | [item] => item
  | items =>
    ⟨items.foldl (fun set item => .union item.set set) .nothing,
      items.foldl (fun depth item => max depth item.depth) 0 + 1⟩

/-- A set with all case variants of its members if the mode asks for them. -/
def folded (flags : Flags) (set : CharSet) : CharSet :=
  if flags.ignoreCase then .anyCase set flags.unicode else set

/-- A part of a pattern, or what lies outside it. In the ASCII mode what lies outside reaches beyond
ASCII; it would match parts of characters and is refused. -/
def signed? (flags : Flags) (negated : Bool) (set : CharSet) : Option CharSet :=
  if negated then if flags.unicode then some (.complement set) else none else some set

/-- The set of the operands read so far. -/
def joined (flags : Flags) (frame : OpenClass) : NestedSet :=
  let right := frame.listed
  match frame.left with
  | none => right
  | some (left, operator) =>
    let first := folded flags left.set
    let second := folded flags right.set
    let set := match operator with
      | .intersection => CharSet.intersection first second
      | .difference => .difference first second
      | .symmetricDifference => .symmetricDifference first second
    ⟨set, max left.depth right.depth + 1⟩

/-- Begin the list on the right of an operator. -/
def operate (flags : Flags) (operator : SetOperator) (frame : OpenClass) : OpenClass :=
  { frame with left := some (frame.joined flags, operator), items := [] }

/-- The set of the whole class. -/
def close? (flags : Flags) (frame : OpenClass) : Option NestedSet :=
  let inner := frame.joined flags
  (signed? flags frame.negated (folded flags inner.set)).map fun set => ⟨set, inner.depth + 1⟩

/-- Take hyphens at the start of a class as characters. -/
def leadingHyphens (flags : Flags) : Nat → OpenClass → List Char → OpenClass × List Char
  | fuel + 1, frame, '-' :: rest =>
    leadingHyphens flags fuel (frame.push ⟨.single '-', 0⟩) (flags.skip rest)
  | _, frame, text => (frame, text)

/-- Begin a class; the text starts behind its bracket. A closing bracket in the first place is a
character. -/
def start (flags : Flags) (text : List Char) : OpenClass × List Char :=
  let text := flags.skip text
  let (negated, text) := match text with
    | '^' :: rest => (true, flags.skip rest)
    | text => (false, text)
  let (frame, text) := leadingHyphens flags text.length ⟨negated, none, []⟩ text
  match frame.items, text with
  | [], ']' :: rest => (frame.push ⟨.single ']', 0⟩, flags.skip rest)
  | _, text => (frame, text)

end OpenClass

namespace Bracket

/-- A class with a name between colons, and whether its complement is meant; the text starts behind
the opening bracket. -/
def namedClass? : List Char → Option ((NamedClass × Bool) × List Char)
  | ':' :: text =>
    let (negated, text) := match text with
      | '^' :: rest => (true, rest)
      | text => (false, text)
    match text.dropWhile (· ≠ ':') with
    | ':' :: ']' :: rest =>
      (NamedClass.ofName? (text.takeWhile (· ≠ ':'))).map fun name => ((name, negated), rest)
    | _ => none
  | _ => none

/-- One character or escape inside a class. -/
def atom (flags : Flags) : List Char → Option (Atom × List Char)
  | [] => none
  | '\\' :: rest => Escape.read flags rest
  | char :: rest => some (.literal char, rest)

/-- A character as an element; the ASCII mode has no others than ASCII. -/
def literal? (flags : Flags) (char : Char) : Option Char :=
  if flags.unicode || char.toNat < 0x80 then some char else none

/-- The set of a single element; conditions on the place are none. -/
def single? (flags : Flags) : Atom → Option CharSet
  | .literal char => (literal? flags char).map CharSet.single
  | .escaped name negated => OpenClass.signed? flags negated (.escaped name flags.unicode)
  | .property set negated => OpenClass.signed? flags negated (OpenClass.folded flags set)
  | .holds _ => none
  | .dot => none

/-- The character at an end of a range. -/
def endpoint? (flags : Flags) : Atom → Option Char
  | .literal char => literal? flags char
  | _ => none

/-- An element or a range. A hyphen makes a range unless the class or another hyphen follows it. -/
def element (flags : Flags) (text : List Char) : Option (NestedSet × List Char) := do
  let (first, rest) ← atom flags text
  match flags.skip rest with
  | [] => none
  | '-' :: behind =>
    if flags.peek behind = some ']' ∨ flags.peek behind = some '-' then
      return (⟨← single? flags first, 0⟩, '-' :: behind)
    else do
      let (second, rest) ← atom flags (flags.skip behind)
      let low ← endpoint? flags first
      let high ← endpoint? flags second
      if low ≤ high then return (⟨.range low high, 0⟩, rest) else none
  | rest => return (⟨← single? flags first, 0⟩, rest)

/-- The rest of a class up to its closing bracket. The first argument bounds the number of steps. -/
def body (flags : Flags) : Nat → OpenClass → List Char → Option (NestedSet × List Char)
  | 0, _, _ => none
  | fuel + 1, frame, text =>
    match flags.skip text with
    | [] => none
    | '[' :: rest =>
      match namedClass? rest with
      | some ((name, negated), rest) => do
        let set ← OpenClass.signed? flags negated (OpenClass.folded flags (.named name))
        body flags fuel (frame.push ⟨set, 0⟩) rest
      | none => do
        let (nested, rest) := OpenClass.start flags rest
        let (item, rest) ← body flags fuel nested rest
        body flags fuel (frame.push item) rest
    | ']' :: rest => (frame.close? flags).map fun found => (found, rest)
    | '&' :: '&' :: rest => body flags fuel (frame.operate flags .intersection) rest
    | '-' :: '-' :: rest => body flags fuel (frame.operate flags .difference) rest
    | '~' :: '~' :: rest => body flags fuel (frame.operate flags .symmetricDifference) rest
    | rest => do
      let (item, rest) ← element flags rest
      body flags fuel (frame.push item) rest

/-- A class behind its opening bracket. -/
def read (flags : Flags) (text : List Char) : Option (NestedSet × List Char) :=
  let (frame, rest) := OpenClass.start flags text
  body flags (text.length + 1) frame rest

end Bracket

end AppBundle.Pattern
