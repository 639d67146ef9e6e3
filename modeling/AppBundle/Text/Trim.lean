import AppBundle.Unicode.Blank

/-! # Trimming

A trimmed text neither begins nor ends with white space.
-/

namespace AppBundle.Text

open Unicode

/-- The characters without white space at either end. -/
def trimChars (text : List Char) : List Char :=
  ((text.dropWhile isBlank).reverse.dropWhile isBlank).reverse

/-- The text without white space at either end. -/
def trim (text : String) : String := String.ofList (trimChars text.toList)

end AppBundle.Text
