/-! # Ranges of characters as bytes

In UTF-8 the characters of a range are written by a few sequences of byte ranges: a sequence of byte
ranges stands for every choice of one byte from each of them.
-/

namespace AppBundle.Text.Utf8

/-- The code points that are written with the same number of bytes: the first and the last one, how
many continuation bytes they have, and what is added to the topmost bits in the leading byte.
Surrogates are left out. -/
structure Block where
  first : Nat
  last : Nat
  tail : Nat
  mark : Nat

/-- All blocks of code points. -/
def blocks : List Block :=
  [⟨0, 0x7F, 0, 0⟩, ⟨0x80, 0x7FF, 1, 0xC0⟩, ⟨0x800, 0xD7FF, 2, 0xE0⟩, ⟨0xE000, 0xFFFF, 2, 0xE0⟩,
   ⟨0x10000, 0x10FFFF, 3, 0xF0⟩]

/-- The sequences for the numbers from `first` to `last`, written as a byte that starts from `mark`
and continuation bytes of six bits each. The first bytes behind which every continuation is meant
share one sequence. -/
def split (mark : Nat) : Nat → Nat → Nat → List (List (Nat × Nat))
  | 0, first, last => [[(mark + first, mark + last)]]
  | tail + 1, first, last =>
    let unit := Nat.pow 64 (tail + 1)
    let low := first / unit
    let high := last / unit
    let inside (lead first last : Nat) : List (List (Nat × Nat)) :=
      (split 0x80 tail first last).map ((mark + lead, mark + lead) :: ·)
    if low = high then inside low (first % unit) (last % unit)
    else
      let wholeFirst := first % unit = 0
      let wholeLast := last % unit = unit - 1
      let start := if wholeFirst then low else low + 1
      let stop := if wholeLast then high + 1 else high
      (if wholeFirst then [] else inside low (first % unit) (unit - 1)) ++
        (if start < stop then
          [(mark + start, mark + stop - 1) :: List.replicate (tail + 1) (0x80, 0xBF)]
        else []) ++
        (if wholeLast then [] else inside high 0 (last % unit))

/-- The sequences for a range of code points, in ascending order. -/
def sequences (range : Nat × Nat) : List (List (Nat × Nat)) :=
  blocks.flatMap fun block =>
    let first := max range.1 block.first
    let last := min range.2 block.last
    if first ≤ last then split block.mark block.tail first last else []

end AppBundle.Text.Utf8
