import AppBundle.Pattern.CharSet

/-! # Pattern expressions and what they match

An expression is matched from a set of places in a text to the set of places where a match can end.
A set of places is a list of truth values, one for each place before, between and behind the
characters. This makes every match decidable by a plain recursion on the expression, whatever its
repetitions. A match from a set of places is a match from one of them, so no round of a repetition
has to start again from a place that an earlier round has started from.
-/

namespace AppBundle.Pattern

/-- A condition on a place in a text. -/
inductive Assertion where
  | textStart
  | textEnd
  /-- Start of the text or behind a line end; `carriage` lets carriage returns end lines too. -/
  | lineStart (carriage : Bool)
  /-- End of the text or before a line end. -/
  | lineEnd (carriage : Bool)
  | wordBoundary (unicode : Bool)
  | noWordBoundary (unicode : Bool)
  | wordStart (unicode : Bool)
  | wordEnd (unicode : Bool)
  /-- No word character before the place. -/
  | wordStartHalf (unicode : Bool)
  /-- No word character behind the place. -/
  | wordEndHalf (unicode : Bool)
deriving DecidableEq, Repr

/-- A pattern expression. -/
inductive Expr where
  | empty
  /-- No match anywhere. -/
  | never
  | oneOf (set : CharSet)
  | holds (assertion : Assertion)
  | seq (first second : Expr)
  | either (left right : Expr)
  /-- A part that is counted as a group of its own. -/
  | group (body : Expr)
  /-- From `least` to `most` matches in a row, without upper bound if `most` is absent. -/
  | repeated (body : Expr) (least : Nat) (most : Option Nat)
deriving DecidableEq, Repr

/-- The characters on both sides of a place, as far as there are any. -/
structure Place where
  before : Option Char
  behind : Option Char
deriving DecidableEq, Repr

namespace Place

/-- The places of a text that follows the given character. -/
def listFrom (before : Option Char) : List Char → List Place
  | [] => [⟨before, none⟩]
  | char :: rest => ⟨before, some char⟩ :: listFrom (some char) rest

/-- The places of a text, one more than it has characters. -/
def list (text : List Char) : List Place := listFrom none text

/-- Whether a neighbour of a place is a word character. -/
def wordSide (unicode : Bool) : Option Char → Bool
  | none => false
  | some char => EscapedClass.word.contains unicode char

/-- Whether a condition is met at a place. -/
def meets (place : Place) : Assertion → Bool
  | .textStart => place.before.isNone
  | .textEnd => place.behind.isNone
  | .lineStart false => place.before.isNone || place.before = some '\n'
  | .lineStart true =>
    place.before.isNone || place.before = some '\n' ||
      (place.before = some '\r' && place.behind != some '\n')
  | .lineEnd false => place.behind.isNone || place.behind = some '\n'
  | .lineEnd true =>
    place.behind.isNone || place.behind = some '\r' ||
      (place.behind = some '\n' && place.before != some '\r')
  | .wordBoundary unicode => wordSide unicode place.before != wordSide unicode place.behind
  | .noWordBoundary unicode => wordSide unicode place.before == wordSide unicode place.behind
  | .wordStart unicode => !wordSide unicode place.before && wordSide unicode place.behind
  | .wordEnd unicode => wordSide unicode place.before && !wordSide unicode place.behind
  | .wordStartHalf unicode => !wordSide unicode place.before
  | .wordEndHalf unicode => !wordSide unicode place.behind

end Place

namespace Expr

/-- No place. -/
def nowhere (here : List Bool) : List Bool := here.map fun _ => false

/-- The places of either set. -/
def unite (left right : List Bool) : List Bool := List.zipWith or left right

/-- The places of the first set that are not in the second. -/
def without (left right : List Bool) : List Bool :=
  List.zipWith (fun inLeft inRight => inLeft && !inRight) left right

/-- Take a step a number of times. When a step changes nothing, no later one does. -/
def after (step : List Bool → List Bool) : Nat → List Bool → List Bool
  | 0, here => here
  | count + 1, here =>
    let next := step here
    if next = here then here else after step count next

/-- The places that one step or more can reach, up to a number of steps. The second set holds the
places from which the next step is taken, the first one these and all earlier ones. -/
def reached (step : List Bool → List Bool) : Nat → List Bool → List Bool → List Bool
  | 0, _, here => nowhere here
  | count + 1, seen, here =>
    if here.any id then
      let next := step here
      unite next (reached step count (unite seen next) (without next seen))
    else here

/-- The places where a match can end that begins at one of the given places. Every round of an
unbounded repetition is the first one to start from some place, so there are no more rounds to
follow than there are places. -/
def ends (places : List Place) : Expr → List Bool → List Bool
  | empty, here => here
  | never, here => nowhere here
  | oneOf set, here =>
    false :: (List.zipWith (fun start place => start && place.behind.any set.contains) here
      places).dropLast
  | holds assertion, here =>
    List.zipWith (fun start place => start && place.meets assertion) here places
  | seq first second, here => second.ends places (first.ends places here)
  | either left right, here => unite (left.ends places here) (right.ends places here)
  | group body, here => body.ends places here
  | repeated body 0 none, here => unite here (reached (body.ends places) places.length here here)
  | repeated body (least + 1) none, here =>
    let start := after (body.ends places) least here
    reached (body.ends places) places.length start start
  | repeated body least (some most), here =>
    let start := after (body.ends places) least here
    unite start (reached (body.ends places) (most - least) start start)

/-- Whether an expression matches somewhere in a text. -/
def isMatch (expr : Expr) (text : List Char) : Bool :=
  let places := Place.list text
  (expr.ends places (places.map fun _ => true)).any id

end Expr

end AppBundle.Pattern
