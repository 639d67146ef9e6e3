import AppBundle.Unicode.Blank
import AppBundle.Unicode.CaseFold
import AppBundle.Unicode.DecimalDigit
import AppBundle.Unicode.Word

/-! # Sets of characters

A `CharSet` is an expression over ranges, named classes and set operations; `CharSet.contains` says
which characters it holds.
-/

namespace AppBundle.Pattern

/-- The classes with a one-letter escape. -/
inductive EscapedClass where
  | digit
  | blank
  | word
deriving DecidableEq, Repr

/-- The classes with a name between colons; all of them hold ASCII characters only. -/
inductive NamedClass where
  | alnum
  | alpha
  | ascii
  | blank
  | cntrl
  | digit
  | graph
  | lower
  | print
  | punct
  | space
  | upper
  | word
  | xdigit
deriving DecidableEq, Repr

namespace NamedClass

/-- The class of the given name. -/
def ofName? : List Char → Option NamedClass
  | ['a', 'l', 'n', 'u', 'm'] => some alnum
  | ['a', 'l', 'p', 'h', 'a'] => some alpha
  | ['a', 's', 'c', 'i', 'i'] => some ascii
  | ['b', 'l', 'a', 'n', 'k'] => some blank
  | ['c', 'n', 't', 'r', 'l'] => some cntrl
  | ['d', 'i', 'g', 'i', 't'] => some digit
  | ['g', 'r', 'a', 'p', 'h'] => some graph
  | ['l', 'o', 'w', 'e', 'r'] => some lower
  | ['p', 'r', 'i', 'n', 't'] => some print
  | ['p', 'u', 'n', 'c', 't'] => some punct
  | ['s', 'p', 'a', 'c', 'e'] => some space
  | ['u', 'p', 'p', 'e', 'r'] => some upper
  | ['w', 'o', 'r', 'd'] => some word
  | ['x', 'd', 'i', 'g', 'i', 't'] => some xdigit
  | _ => none

/-- Whether a character belongs to a class. -/
def contains (char : Char) : NamedClass → Bool
  | alnum => char.isAlphanum
  | alpha => char.isAlpha
  | ascii => char.toNat < 0x80
  | blank => char = ' ' || char = '\t'
  | cntrl => char.toNat < 0x20 || char.toNat = 0x7F
  | digit => char.isDigit
  | graph => '!' ≤ char && char ≤ '~'
  | lower => char.isLower
  | print => ' ' ≤ char && char ≤ '~'
  | punct => '!' ≤ char && char ≤ '~' && !char.isAlphanum
  | space => char = ' ' || (9 ≤ char.toNat && char.toNat ≤ 13)
  | upper => char.isUpper
  | word => char.isAlphanum || char = '_'
  | xdigit => char.isDigit || ('a' ≤ char && char ≤ 'f') || ('A' ≤ char && char ≤ 'F')

end NamedClass

namespace EscapedClass

/-- Whether a character belongs to a class, in all scripts or in ASCII only. -/
def contains (unicode : Bool) (char : Char) : EscapedClass → Bool
  | digit => if unicode then Unicode.isDecimalDigit char else NamedClass.digit.contains char
  | blank => if unicode then Unicode.isBlank char else NamedClass.space.contains char
  | word => if unicode then Unicode.isWord char else NamedClass.word.contains char

end EscapedClass

/-- The case variants of a character, in all scripts or in ASCII only. -/
def caseVariants (unicode : Bool) (char : Char) : List Char :=
  if unicode then Unicode.caseVariants char else [char.toLower, char.toUpper, char]

/-- A set of characters. -/
inductive CharSet where
  | nothing
  | range (first last : Char)
  /-- The characters with code points in ascending ranges. -/
  | codes (ranges : List (Nat × Nat))
  | escaped (name : EscapedClass) (unicode : Bool)
  | named (name : NamedClass)
  | complement (set : CharSet)
  | union (left right : CharSet)
  | intersection (left right : CharSet)
  | difference (left right : CharSet)
  | symmetricDifference (left right : CharSet)
  /-- All case variants of the members. -/
  | anyCase (set : CharSet) (unicode : Bool)
deriving DecidableEq, Repr

namespace CharSet

/-- The set of one character. -/
def single (char : Char) : CharSet := range char char

/-- The characters of a table. -/
def ofTable (ranges : Array (Nat × Nat)) : CharSet := codes ranges.toList

/-- The characters of any of the sets. -/
def anyOf (sets : List CharSet) : CharSet := sets.foldr union nothing

/-- Whether a character is a member. -/
def contains : CharSet → Char → Bool
  | nothing, _ => false
  | range first last, char => first ≤ char && char ≤ last
  | codes ranges, char => Unicode.Ranges.contains ranges char.toNat
  | escaped name unicode, char => name.contains unicode char
  | named name, char => name.contains char
  | complement set, char => !set.contains char
  | union left right, char => left.contains char || right.contains char
  | intersection left right, char => left.contains char && right.contains char
  | difference left right, char => left.contains char && !right.contains char
  | symmetricDifference left right, char => left.contains char != right.contains char
  | anyCase set unicode, char => (caseVariants unicode char).any set.contains

end CharSet

end AppBundle.Pattern
