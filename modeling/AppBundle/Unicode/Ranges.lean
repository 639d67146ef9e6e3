/-! # Character properties as ranges

A character property is a table of inclusive ranges of code points, in ascending order. Sets of code
points are combined as lists of such ranges; every list that the operations here build is ascending,
and its ranges neither overlap nor touch.
-/

namespace AppBundle.Unicode

/-- Whether the code point of a character lies in one of the ranges. -/
def inRanges (ranges : Array (Nat × Nat)) (char : Char) : Bool :=
  ranges.any fun range => range.1 ≤ char.toNat && char.toNat ≤ range.2

/-- The greatest code point. -/
def lastCode : Nat := 0x10FFFF

/-- The code points that no character has. -/
def surrogates : Nat × Nat := (0xD800, 0xDFFF)

namespace Ranges

/-- Whether a code point lies in one of the ranges. -/
def contains (ranges : List (Nat × Nat)) (code : Nat) : Bool :=
  ranges.any fun range => range.1 ≤ code && code ≤ range.2

/-- Add a range, joined with the ranges that it meets. -/
def insert (new : Nat × Nat) : List (Nat × Nat) → List (Nat × Nat)
  | [] => [new]
  | here :: rest =>
    if new.2 + 1 < here.1 then new :: here :: rest
    else if here.2 + 1 < new.1 then here :: insert new rest
    else insert (min new.1 here.1, max new.2 here.2) rest

/-- The ranges of single code points. -/
def ofCodes (codes : List Nat) : List (Nat × Nat) :=
  codes.foldr (fun code => insert (code, code)) []

/-- The code points of either list. -/
def union (left right : List (Nat × Nat)) : List (Nat × Nat) := left.foldr insert right

/-- The code points from `start` on that lie in none of the ranges. -/
def gaps (start : Nat) : List (Nat × Nat) → List (Nat × Nat)
  | [] => if start ≤ lastCode then [(start, lastCode)] else []
  | (first, last) :: rest =>
    if start < first then (start, first - 1) :: gaps (last + 1) rest else gaps (last + 1) rest

/-- The characters that lie in none of the ranges. -/
def complement (ranges : List (Nat × Nat)) : List (Nat × Nat) := gaps 0 (insert surrogates ranges)

/-- The characters of both lists. -/
def intersection (left right : List (Nat × Nat)) : List (Nat × Nat) :=
  complement (union (complement left) (complement right))

/-- The characters of the first list that are not in the second. -/
def difference (left right : List (Nat × Nat)) : List (Nat × Nat) :=
  complement (union (complement left) right)

end Ranges

end AppBundle.Unicode
