import AppBundle.Json.Basic

/-! # Compact JSON text

Values are written without blanks, members in the order in which the object holds them. Quotes,
backslashes and control characters are escaped, the common ones by a letter and the others as four
lower-case hexadecimal digits; every other character stands for itself.
-/

namespace AppBundle.Json

/-- One hexadecimal digit, in lower case. -/
def hexDigit (value : Nat) : Char := Nat.digitChar (value % 16)

/-- The written form of one character of a string. -/
def escapeChar (char : Char) : List Char :=
  if char = '"' then ['\\', '"']
  else if char = '\\' then ['\\', '\\']
  else if char = '\x08' then ['\\', 'b']
  else if char = '\x0c' then ['\\', 'f']
  else if char = '\n' then ['\\', 'n']
  else if char = '\r' then ['\\', 'r']
  else if char = '\t' then ['\\', 't']
  else if char.toNat < 0x20 then
    ['\\', 'u', '0', '0', hexDigit (char.toNat / 16), hexDigit char.toNat]
  else [char]

/-- A string between its quotes. -/
def renderString (text : String) : List Char :=
  '"' :: text.toList.flatMap escapeChar ++ ['"']

/-- An integer in decimal digits. -/
def renderInteger (value : Int) : List Char :=
  if value < 0 then '-' :: Nat.toDigits 10 value.natAbs else Nat.toDigits 10 value.natAbs

/-- A number in the form that its value records. -/
def renderNumber : Number → List Char
  | .integer value => renderInteger value
  | .decimal negative digits exponent =>
    (if negative then ['-'] else []) ++ Nat.toDigits 10 digits ++ 'e' :: renderInteger exponent

mutual

/-- The characters of a value. -/
def renderChars : Json → List Char
  | null => ['n', 'u', 'l', 'l']
  | bool true => ['t', 'r', 'u', 'e']
  | bool false => ['f', 'a', 'l', 's', 'e']
  | number value => renderNumber value
  | string text => renderString text
  | array [] => ['[', ']']
  | array (first :: rest) => '[' :: renderChars first ++ renderItems rest
  | object [] => ['{', '}']
  | object ((name, first) :: rest) =>
    '{' :: renderString name ++ ':' :: renderChars first ++ renderMembers rest

/-- The items behind the first one, and the end of the array. -/
def renderItems : List Json → List Char
  | [] => [']']
  | item :: rest => ',' :: renderChars item ++ renderItems rest

/-- The members behind the first one, and the end of the object. -/
def renderMembers : List (String × Json) → List Char
  | [] => ['}']
  | (name, value) :: rest =>
    ',' :: renderString name ++ ':' :: renderChars value ++ renderMembers rest

end

/-- The compact text of a value. -/
def render (value : Json) : String := String.ofList (renderChars value)

end AppBundle.Json
