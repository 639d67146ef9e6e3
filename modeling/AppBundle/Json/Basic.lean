/-! # JSON values

An object keeps its members as they were written, and a number keeps whether it was written as an
integer, because documents are judged by it.
-/

namespace AppBundle

/-- A number by its written form: plain digits, or digits scaled by a power of ten. A negative zero
is of the second form, which keeps the sign. -/
inductive Json.Number where
  | integer (value : Int)
  | decimal (negative : Bool) (digits : Nat) (exponent : Int)
deriving DecidableEq, Repr

/-- A JSON value. -/
inductive Json where
  | null
  | bool (value : Bool)
  | number (value : Json.Number)
  | string (text : String)
  | array (items : List Json)
  | object (members : List (String × Json))
deriving Repr

namespace Json

/-- The value of an optional component: the component itself, or null. -/
def ofOption {α : Type} (encode : α → Json) : Option α → Json
  | none => null
  | some value => encode value

/-- A natural number. -/
def ofNat (value : Nat) : Json := number (.integer value)

/-- An array of encoded elements. -/
def ofList {α : Type} (encode : α → Json) (values : List α) : Json := array (values.map encode)

end Json

end AppBundle
