import AppBundle.Json.Basic
import AppBundle.Number.Layout

/-! # Formats of documents

Model values are read from JSON documents and provider settings from TOML tables. Both are held as
`Json` values; what differs is which numbers count as integers and how the others are shown.
-/

namespace AppBundle.Document

/-- The format that a document was written in. -/
inductive Format where
  | json
  | toml
deriving DecidableEq, Repr

namespace Format

/-- The least and the greatest integer of a format; JSON also has the unsigned 64-bit range. -/
def integerBounds : Format → Int × Int
  | json => (-0x8000000000000000, 0xFFFFFFFFFFFFFFFF)
  | toml => (-0x8000000000000000, 0x7FFFFFFFFFFFFFFF)

/-- The value of a number that the format keeps as an integer: it is written as one and lies in the
bounds. -/
def integer? (format : Format) : Json.Number → Option Int
  | .integer value =>
    let (least, greatest) := format.integerBounds
    if least ≤ value ∧ value ≤ greatest then some value else none
  | .decimal .. => none

/-- JSON numbers are shown positionally from five places behind the point to sixteen digits before
it, TOML numbers always. -/
def layout : Format → Number.Layout
  | json => ⟨fun leading => -5 ≤ leading && leading ≤ 15⟩
  | toml => ⟨fun _ => true⟩

/-- A number as the nearest floating-point number, in the fewest digits that identify it. -/
def floatText (format : Format) (number : Json.Number) : String :=
  let (negative, decimal) := match number with
    | .integer value => (decide (value < 0), (⟨value.natAbs, 0⟩ : Number.Decimal))
    | .decimal negative digits exponent => (negative, ⟨digits, exponent⟩)
  format.layout.write negative (Number.Binary64.ofDecimal decimal).shortest

end Format

end AppBundle.Document
