import AppBundle.Unicode.GraphemeExtend
import AppBundle.Unicode.Unprintable

/-! # Quoted text in messages

A text inside a message stands between double quotes, and every character in it is visible on its
own: quotes, backslashes and the common control characters have short escapes, and any other
character that is unprintable or drawn onto its neighbour is given by its code point.
-/

namespace AppBundle.Text

/-- A code point in hexadecimal, between braces. -/
def escapeCode (char : Char) : List Char :=
  ['\\', 'u', '{'] ++ Nat.toDigits 16 char.toNat ++ ['}']

/-- The visible form of one character. -/
def quoteChar (char : Char) : List Char :=
  if char = '"' then ['\\', '"']
  else if char = '\\' then ['\\', '\\']
  else if char = '\n' then ['\\', 'n']
  else if char = '\r' then ['\\', 'r']
  else if char = '\t' then ['\\', 't']
  else if char = Char.ofNat 0 then ['\\', '0']
  else if Unicode.isGraphemeExtend char || Unicode.isUnprintable char then escapeCode char
  else [char]

/-- A text between double quotes with every character visible. -/
def quote (text : String) : String :=
  String.ofList (['"'] ++ text.toList.flatMap quoteChar ++ ['"'])

end AppBundle.Text
