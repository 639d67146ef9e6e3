import AppBundle.Pattern.Compact
import AppBundle.Text.Utf8

/-! # The size of a pattern

A pattern stands for an automaton that reads bytes, forwards or backwards. Repetitions are written
out in it, so that a short pattern can stand for a large automaton; a pattern is refused when its
automaton is too large in either direction. The size of an automaton is computed here from the
compact form of the pattern, without building it. Sizes are in bytes. Equal states of a class are
one state here. An automaton whose builder remembers a bounded number of states may hold a few of
them twice, so that the size of a pattern with many classes can fall short by a few states.
-/

namespace AppBundle.Pattern

/-- The ways to read a text. -/
inductive Direction where
  | forwards
  | backwards
deriving DecidableEq, Repr

namespace Size

/-- The size of a state. -/
def state : Nat := 32

/-- The size of a byte range by which a state is left. -/
def transition : Nat := 8

/-- The size of an alternative of a state. -/
def option : Nat := 4

/-- A state that reads a byte: its byte ranges, each with the number of the state that follows. -/
abbrev Reading := List ((Nat × Nat) × Nat)

/-- The number of a state among those that are there already, or else behind them. -/
def number (reading : Reading) (there : List Reading) : Nat × List Reading :=
  match there.idxOf? reading with
  | some place => (place + 1, there)
  | none => (there.length + 1, there ++ [reading])

/-- Neighbouring sequences that begin with the same byte range. -/
def byFirst (sequences : List (List (Nat × Nat))) : List (List (List (Nat × Nat))) :=
  sequences.splitBy fun left right => left.head? == right.head?

/-- The states that read sequences of byte ranges forwards. States that agree on all that follows
are one state; the state behind all sequences has the number zero. The first argument bounds the
length of the sequences. -/
def readings : Nat → List (List (Nat × Nat)) → List Reading → Nat × List Reading
  | 0, _, there => (0, there)
  | length + 1, sequences, there =>
    if sequences.all List.isEmpty then (0, there)
    else
      let (reading, there) := (byFirst sequences).foldl (fun (reading, there) group =>
        match group.head?.bind List.head? with
        | none => (reading, there)
        | some range =>
          let (next, there) := readings length (group.map List.tail) there
          (reading ++ [(range, next)], there)) ([], there)
      number reading there

/-- How many states read sequences of byte ranges backwards. Sequences share the states of a common
beginning. The first argument bounds the length of the sequences. -/
def stems : Nat → List (List (Nat × Nat)) → Nat
  | 0, _ => 0
  | length + 1, sequences =>
    if sequences.all List.isEmpty then 0
    else total ((byFirst sequences).map fun group => 1 + stems length (group.map List.tail))

/-- The size of a class. A class of ASCII characters is read by one state. -/
def ofRanges (direction : Direction) (ranges : List (Nat × Nat)) : Nat :=
  if ranges.all fun range => range.2 < 0x80 then 2 * state + transition * ranges.length
  else
    let sequences := ranges.flatMap Text.Utf8.sequences
    match direction with
    | .forwards =>
      let found := (readings 5 sequences []).2
      state + total (found.map fun reading => state + transition * reading.length)
    | .backwards => 2 * state + option * sequences.length + state * stems 5 sequences

/-- The size of the states that read words from a common beginning. A word that ends here is tried
before the words that come after it. The first argument bounds the length of the words. -/
def ofWordsWithin : Nat → List (List UInt8) → Nat
  | 0, _ => 0
  | length + 1, words =>
    if words.all List.isEmpty then 0
    else
      let behind := words.dropWhile List.isEmpty
      let ended := (if words.head? = some [] then 1 else 0) + behind.countP List.isEmpty
      let runs := (behind.splitBy fun left right => left.isEmpty == right.isEmpty).filter fun run =>
        !run.all List.isEmpty
      let sizes := runs.map fun run =>
        let heads := (run.filterMap List.head?).eraseDups
        (if heads.length = 1 then state else state + transition * heads.length) +
          total (heads.map fun head => ofWordsWithin length
            ((run.filter fun word => word.head? = some head).map List.tail))
      state + option * (runs.length + ended) + total sizes

/-- The size of alternatives that are all words. -/
def ofWords (words : List (List UInt8)) : Nat :=
  state + ofWordsWithin ((words.map List.length).foldl max 0 + 1) words

/-- An alternative: its bytes in reading order, if it is a word, and its size. -/
structure Branch where
  word? : Option (List UInt8)
  size : Nat

/-- The size of alternatives. -/
def ofBranches : List Branch → Nat
  | [branch] => branch.size
  | branches =>
    match branches.mapM Branch.word? with
    | some words => ofWords words
    | none => 2 * state + option * branches.length + total (branches.map Branch.size)

/-- The size of a repetition of a part of the given size. A part that can match the empty text needs
states of its own for leaving the repetition. -/
def ofRepetition (size : Nat) (moves : Bool) (least : Nat) : Option Nat → Nat
  | none =>
    if 0 < least then least * size + state + 2 * option
    else if moves then size + state + 2 * option
    else size + 3 * state + 4 * option
  | some most =>
    if least = most then least * size
    else if least = 0 ∧ most = 1 then size + 2 * state + 2 * option
    else (if least = 0 then state else least * size) + state +
      (most - least) * (size + state + 2 * option)

end Size

namespace Compact

/-- Whether every match begins at the start of the text. -/
def beginsText : Compact → Bool
  | holds .textStart => true
  | seq first rest => first.beginsText || (first.greatest = some 0 && rest.beginsText)
  | either first rest => first.beginsText && rest.beginsText
  | group body => body.beginsText
  | repeated body least _ => 0 < least && body.beginsText
  | _ => false

/-- Whether every match ends at the end of the text. -/
def endsText : Compact → Bool
  | holds .textEnd => true
  | seq first rest => rest.endsText || (rest.greatest = some 0 && first.endsText)
  | either first rest => first.endsText && rest.endsText
  | group body => body.endsText
  | repeated body least _ => 0 < least && body.endsText
  | _ => false

/-- The alternatives of a form with their sizes. Groups leave a mark on both sides when the text is
read forwards. -/
def sized (direction : Direction) : Compact → List Size.Branch
  | empty => [⟨none, Size.state⟩]
  | literal text =>
    let word := text.flatMap String.utf8EncodeChar
    [⟨some (if direction = .forwards then word else word.reverse), Size.state * word.length⟩]
  | oneOf ranges => [⟨none, Size.ofRanges direction ranges⟩]
  | holds _ => [⟨none, Size.state⟩]
  | seq first rest =>
    [⟨none, Size.ofBranches (first.sized direction) + Size.ofBranches (rest.sized direction)⟩]
  | either first rest => first.sized direction ++ rest.sized direction
  | group body =>
    [⟨none, Size.ofBranches (body.sized direction) +
      if direction = .forwards then 2 * Size.state else 0⟩]
  | repeated body least most =>
    [⟨none, Size.ofRepetition (Size.ofBranches (body.sized direction))
      (body.fewest.any (0 < ·)) least most⟩]

/-- The size of the automaton of a form. A form that can match away from where the text begins to be
read is preceded by a part that passes over any bytes, and the whole is counted as a group. -/
def size (direction : Direction) (form : Compact) : Nat :=
  let held := match direction with
    | .forwards => form.beginsText
    | .backwards => form.endsText
  let start := if held then Size.state else 3 * Size.state + 2 * Size.option + Size.transition
  start + Size.ofBranches ((group form).sized direction) + Size.state

end Compact

/-- The greatest size of an automaton, ten mebibytes. -/
def sizeLimit : Nat := 10 * 1024 * 1024

/-- Whether the automata of an expression are small enough. -/
def Expr.fits (expr : Expr) : Bool :=
  let form := expr.compact
  form.size .forwards ≤ sizeLimit && form.size .backwards ≤ sizeLimit

end AppBundle.Pattern
