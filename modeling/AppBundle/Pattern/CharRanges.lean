import AppBundle.Pattern.CharSet

/-! # Sets of characters as ranges

The members of a set as ascending ranges of code points, which neither overlap nor touch.
-/

namespace AppBundle.Pattern

open Unicode

/-- The ASCII characters with a property. -/
def asciiRanges (holds : Char → Bool) : List (Nat × Nat) :=
  Ranges.ofCodes ((List.range 0x80).filter fun code => holds (Char.ofNat code))

/-- The members of a class with a one-letter escape. -/
def EscapedClass.ranges (unicode : Bool) (name : EscapedClass) : List (Nat × Nat) :=
  if unicode then
    match name with
    | .digit => decimalDigitRanges.toList
    | .blank => blankRanges.toList
    | .word => wordRanges.toList
  else asciiRanges fun char => name.contains false char

/-- The code points that have another one for their representative without regard to case, with
this representative. -/
def foldings (unicode : Bool) : List (Nat × Nat) :=
  if unicode then foldRuns.toList.flatMap FoldRun.pairs
  else FoldRun.pairs ⟨'A'.toNat, 'Z'.toNat, 1, 'a'.toNat⟩

/-- All case variants of the members. -/
def anyCaseRanges (unicode : Bool) (ranges : List (Nat × Nat)) : List (Nat × Nat) :=
  let pairs := foldings unicode
  let folded := Ranges.union
    (Ranges.ofCodes ((pairs.filter fun pair => Ranges.contains ranges pair.1).map (·.2))) ranges
  Ranges.union
    (Ranges.ofCodes ((pairs.filter fun pair => Ranges.contains folded pair.2).map (·.1))) folded

/-- The members of a set. -/
def CharSet.ranges : CharSet → List (Nat × Nat)
  | nothing => []
  | range first last => if first ≤ last then [(first.toNat, last.toNat)] else []
  | codes ranges => Ranges.union (ranges.filter fun range => range.1 ≤ range.2) []
  | escaped name unicode => name.ranges unicode
  | named name => asciiRanges fun char => name.contains char
  | complement set => Ranges.complement set.ranges
  | union left right => Ranges.union left.ranges right.ranges
  | intersection left right => Ranges.intersection left.ranges right.ranges
  | difference left right => Ranges.difference left.ranges right.ranges
  | symmetricDifference left right =>
    Ranges.union (Ranges.difference left.ranges right.ranges)
      (Ranges.difference right.ranges left.ranges)
  | anyCase set unicode => anyCaseRanges unicode set.ranges

end AppBundle.Pattern
