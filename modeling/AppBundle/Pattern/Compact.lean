import AppBundle.Pattern.CharRanges
import AppBundle.Pattern.Expr

/-! # Compact forms of expressions

In the compact form of an expression, characters in a row are joined to one literal, characters or
classes to choose from are united to one class, a common beginning of all alternatives is taken out
of them, and repetitions that add nothing are left out. The form matches what the expression
matches; the size of a pattern is judged by it. Whether a repetition is lazy is not recorded, so
that beginnings of alternatives are taken for a common one if they differ in this only.
-/

namespace AppBundle.Pattern

/-- An expression in compact form. A row is a chain of `seq`, alternatives are a chain of `either`,
and the first part of a chain is never such a chain itself. -/
inductive Compact where
  | empty
  | literal (text : List Char)
  | oneOf (ranges : List (Nat × Nat))
  | holds (assertion : Assertion)
  | seq (first rest : Compact)
  | either (first rest : Compact)
  | group (body : Compact)
  | repeated (body : Compact) (least : Nat) (most : Option Nat)
deriving DecidableEq, Repr

/-- The sum of numbers. -/
def total (numbers : List Nat) : Nat := numbers.foldr (· + ·) 0

namespace Compact

/-- The number of bytes of a text in UTF-8. -/
def byteCount (text : List Char) : Nat := total (text.map Char.utf8Size)

/-- The fewest bytes of a match, if every part of the form can match at all. -/
def fewest : Compact → Option Nat
  | empty => some 0
  | literal text => some (byteCount text)
  | oneOf ranges => ranges.head?.map fun range => (Char.ofNat range.1).utf8Size
  | holds _ => some 0
  | seq first rest => do return (← first.fewest) + (← rest.fewest)
  | either first rest => do return min (← first.fewest) (← rest.fewest)
  | group body => body.fewest
  | repeated body least _ => body.fewest.map (· * least)

/-- The most bytes of a match, if there is such a number. -/
def greatest : Compact → Option Nat
  | empty => some 0
  | literal text => some (byteCount text)
  | oneOf ranges => ranges.getLast?.map fun range => (Char.ofNat range.2).utf8Size
  | holds _ => some 0
  | seq first rest => do return (← first.greatest) + (← rest.greatest)
  | either first rest => do return max (← first.greatest) (← rest.greatest)
  | group body => body.greatest
  | repeated body _ most => do return (← body.greatest) * (← most)

/-- Whether a part of the form is counted as a group. -/
def counts : Compact → Bool
  | group _ => true
  | seq first rest => first.counts || rest.counts
  | either first rest => first.counts || rest.counts
  | repeated body _ _ => body.counts
  | _ => false

/-- The number of parts of the form at all levels. -/
def nodes : Compact → Nat
  | seq first rest => first.nodes + rest.nodes + 1
  | either first rest => first.nodes + rest.nodes + 1
  | group body => body.nodes + 1
  | repeated body _ _ => body.nodes + 1
  | _ => 1

/-- The parts in a row. -/
def parts : Compact → List Compact
  | empty => []
  | seq first rest => first :: rest.parts
  | form => [form]

/-- The form of parts in a row. -/
def ofParts : List Compact → Compact
  | [] => empty
  | [part] => part
  | part :: rest => seq part (ofParts rest)

/-- Put a part in front of a row. Literals are joined. -/
def join : Compact → List Compact → List Compact
  | literal text, literal more :: rest => literal (text ++ more) :: rest
  | part, rest => part :: rest

/-- Forms in a row. -/
def row (forms : List Compact) : Compact := ofParts ((forms.flatMap parts).foldr join [])

/-- The alternatives to choose from. -/
def branches : Compact → List Compact
  | either first rest => first :: rest.branches
  | form => [form]

/-- The form of a class; a class of one character is a literal. -/
def ofRanges : List (Nat × Nat) → Compact
  | [(first, last)] => if first = last then literal [Char.ofNat first] else oneOf [(first, last)]
  | ranges => oneOf ranges

/-- The form of alternatives. -/
def ofBranches : List Compact → Compact
  | [] => oneOf []
  | [branch] => branch
  | branch :: rest => either branch (ofBranches rest)

/-- The class of alternatives that all are single characters. -/
def singles? (branches : List Compact) : Option (List (Nat × Nat)) := do
  let codes ← branches.mapM fun
    | literal [char] => some char.toNat
    | _ => none
  return Unicode.Ranges.ofCodes codes

/-- The class of alternatives that all are classes. -/
def classes? (branches : List Compact) : Option (List (Nat × Nat)) := do
  let classes ← branches.mapM fun
    | oneOf ranges => some ranges
    | _ => none
  return classes.foldr Unicode.Ranges.union []

/-- The parts that two rows begin with. Counted groups are all different. -/
def commonStart : List Compact → List Compact → List Compact
  | left :: lefts, right :: rights =>
    if left = right && !left.counts then left :: commonStart lefts rights else []
  | _, _ => []

/-- The parts that all alternatives begin with and what follows them in each, provided that every
alternative is a row and that there are such parts. -/
def factor? (branches : List Compact) : Option (List Compact × List Compact) := do
  let rows ← branches.mapM fun
    | seq first rest => some (first :: rest.parts)
    | _ => none
  let start := rows.tail.foldl commonStart (rows.headD [])
  if start.isEmpty then none
  else return (start, rows.map fun parts => ofParts (parts.drop start.length))

/-- Alternatives to choose from. The first argument bounds how often a common beginning is taken
out. -/
def chooseWithin : Nat → List Compact → Compact
  | 0, forms => ofBranches (forms.flatMap branches)
  | fuel + 1, forms =>
    let forms := forms.flatMap branches
    if forms.length < 2 then ofBranches forms
    else
      match singles? forms, classes? forms, factor? forms with
      | some ranges, _, _ => ofRanges ranges
      | _, some ranges, _ => ofRanges ranges
      | _, _, some (start, rests) => row (start ++ [chooseWithin fuel rests])
      | _, _, none => ofBranches forms

/-- Alternatives to choose from. What is taken out of them makes them smaller. -/
def choose (forms : List Compact) : Compact := chooseWithin (total (forms.map nodes)) forms

/-- A form that may match several times in a row. A form that matches the empty text only is not
repeated. -/
def times (body : Compact) (least : Nat) (most : Option Nat) : Compact :=
  let still := body.greatest = some 0
  let least := if still then min least 1 else least
  let most := if still then some (min (most.getD 1) 1) else most
  if least = 0 ∧ most = some 0 then empty
  else if least = 1 ∧ most = some 1 then body
  else repeated body least most

end Compact

/-- The compact forms of the alternatives of an expression. -/
def Expr.alternatives : Expr → List Compact
  | empty => [.empty]
  | never => []
  | oneOf set => [.ofRanges set.ranges]
  | holds assertion => [.holds assertion]
  | seq first second => [.row [.choose first.alternatives, .choose second.alternatives]]
  | either left right => .choose left.alternatives :: right.alternatives
  | group body => [.group (.choose body.alternatives)]
  | repeated body least most => [.times (.choose body.alternatives) least most]

/-- The compact form of an expression. -/
def Expr.compact (expr : Expr) : Compact := .choose expr.alternatives

end AppBundle.Pattern
