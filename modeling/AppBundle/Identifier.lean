import AppBundle.ModelError

/-! # Identifiers

An identifier is a text without the characters that delimit placeholder tokens, so `#{id:key}` can
be taken apart in one way only. The text is kept as it was given, and identifiers are ordered and
compared by it.
-/

namespace AppBundle

/-- Whether a character delimits placeholder tokens and so can not stand in an identifier. -/
def reservedInIdentifier (char : Char) : Bool := char = '{' || char = '}' || char = ':'

/-- A name that a placeholder token can carry. -/
structure Identifier where
  text : String
  plain : text.toList.all (fun char => !reservedInIdentifier char) = true
deriving DecidableEq

namespace Identifier

/-- Take a text as an identifier if it holds no reserved character. -/
def parse (text : String) : Except ModelError Identifier :=
  if plain : text.toList.all (fun char => !reservedInIdentifier char) = true then
    .ok ⟨text, plain⟩
  else .error (.invalidIdentifier text)

instance : Ord Identifier := ⟨compareOn text⟩

instance : Std.TransOrd Identifier :=
  inferInstanceAs (Std.TransCmp (compareOn text))

instance : Std.LawfulEqOrd Identifier where
  eq_of_compare {a b} same := by
    have texts : a.text = b.text := Std.LawfulEqOrd.eq_of_compare (α := String) same
    cases a; cases b; congr

theorem parse_text (identifier : Identifier) : parse identifier.text = .ok identifier := by
  simp [parse, identifier.plain]

theorem text_of_parse {text : String} {identifier : Identifier}
    (parsed : parse text = .ok identifier) : identifier.text = text := by
  unfold parse at parsed
  split at parsed
  · cases parsed; rfl
  · cases parsed

end Identifier

end AppBundle
