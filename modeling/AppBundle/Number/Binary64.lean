/-! # Binary floating-point numbers and their shortest decimals

A finite value is `mantissa * 2 ^ exponent` with a mantissa below `2 ^ 53`. A decimal is read as the
nearest such value, ties going to the even mantissa, and a value is shown by the fewest significant
digits that read back to it, the nearest such digits if there are several. All arithmetic is exact.
-/

namespace AppBundle.Number

/-- The quotient rounded to the nearest integer, a tie going to the even one. -/
def roundedQuotient (numerator denominator : Nat) : Nat :=
  let quotient := numerator / denominator
  let twice := 2 * (numerator % denominator)
  if twice < denominator then quotient
  else if denominator < twice then quotient + 1
  else quotient + quotient % 2

/-- The magnitude of a finite binary floating-point number: `mantissa * 2 ^ exponent`. -/
structure Binary64 where
  mantissa : Nat
  exponent : Int
deriving DecidableEq, Repr

/-- `digits * 10 ^ exponent`. -/
structure Decimal where
  digits : Nat
  exponent : Int
deriving DecidableEq, Repr

/-- A fraction equal to `base ^ exponent`. -/
def powerFraction (base : Nat) (exponent : Int) : Nat × Nat :=
  if 0 ≤ exponent then (base.pow exponent.toNat, 1) else (1, base.pow (-exponent).toNat)

namespace Binary64

/-- All mantissas are below `2 ^ 53`. -/
def limit : Nat := 0x20000000000000

/-- The least exponent, which subnormal numbers have. -/
def leastExponent : Int := -1074

/-- The value nearest to a fraction, with the mantissa scaled by the given exponent. -/
def scaled (numerator denominator : Nat) (exponent : Int) : Nat :=
  let (up, down) := powerFraction 2 exponent
  roundedQuotient (numerator * down) (denominator * up)

/-- The value nearest to a positive fraction. The first guess at the exponent is at most one too
low, which a mantissa of 54 bits shows; rounding up to `2 ^ 53` moves to the next exponent. -/
def ofFraction (numerator denominator : Nat) : Binary64 :=
  let guess : Int := (numerator.log2 : Int) - (denominator.log2 : Int) - 53
  let exponent := max guess leastExponent
  let mantissa := scaled numerator denominator exponent
  if mantissa < limit then ⟨mantissa, exponent⟩
  else
    let mantissa := scaled numerator denominator (exponent + 1)
    if mantissa < limit then ⟨mantissa, exponent + 1⟩ else ⟨mantissa / 2, exponent + 2⟩

/-- The value nearest to a decimal. Exponents so far out that only zero or nothing finite is near
are cut off first. -/
def ofDecimal (decimal : Decimal) : Binary64 :=
  let width : Int := (Nat.toDigits 10 decimal.digits).length
  if decimal.digits = 0 ∨ decimal.exponent + width < -400 then ⟨0, leastExponent⟩
  else
    let (up, down) := powerFraction 10 (min decimal.exponent 400)
    ofFraction (decimal.digits * up) down

/-- Whether a decimal lies in the interval of numbers that round to the value. The gap below a power
of two is half as wide as the one above, and the ends belong to even mantissas. -/
def covers (value : Binary64) (decimal : Decimal) : Bool :=
  let (up, down) := powerFraction 10 decimal.exponent
  let (grow, shrink) := powerFraction 2 (value.exponent - 2)
  let point := decimal.digits * up * shrink
  let unit := down * grow
  let narrow := value.mantissa = limit / 2 ∧ value.exponent ≠ leastExponent
  let low := (4 * value.mantissa - if narrow then 1 else 2) * unit
  let high := (4 * value.mantissa + 2) * unit
  if value.mantissa % 2 = 0 then low ≤ point && point ≤ high else low < point && point < high

/-- The decimals at the given exponent next to the value that round to it, the nearer one first. -/
def neighbours (value : Binary64) (exponent : Int) : List Decimal :=
  let (up, down) := powerFraction 10 exponent
  let (grow, shrink) := powerFraction 2 value.exponent
  let numerator := value.mantissa * grow * down
  let denominator := shrink * up
  let below := numerator / denominator
  let nearest := roundedQuotient numerator denominator
  let other := if nearest = below then below + 1 else below
  [(⟨nearest, exponent⟩ : Decimal), ⟨other, exponent⟩].filter value.covers

/-- Position of the leading decimal digit of a positive value: `n` with `10 ^ n ≤ value`, as close
as possible. The estimate from the leading bit is at most one too low. -/
def leadingExponent (value : Binary64) : Int :=
  let bits : Int := value.mantissa.log2 + value.exponent
  let estimate := Int.fdiv (bits * 30103) 100000
  let (up, down) := powerFraction 10 (estimate + 1)
  let (grow, shrink) := powerFraction 2 value.exponent
  if up * shrink ≤ value.mantissa * grow * down then estimate + 1 else estimate

/-- The fewest significant digits, at most seventeen, that read back as the value. -/
def shortest (value : Binary64) : Decimal :=
  if value.mantissa = 0 then ⟨0, 0⟩
  else
    let leading := value.leadingExponent
    let candidates := (List.range 18).flatMap fun (count : Nat) =>
      value.neighbours (leading - count)
    candidates.headD ⟨value.mantissa, 0⟩

end Binary64

/-- Drop trailing zeros of the digits, at most as many as there are digits. -/
def Decimal.normalize (decimal : Decimal) : Decimal :=
  (List.range (Nat.toDigits 10 decimal.digits).length).foldl
    (fun decimal _ =>
      if decimal.digits ≠ 0 ∧ decimal.digits % 10 = 0 then
        ⟨decimal.digits / 10, decimal.exponent + 1⟩
      else decimal) decimal

end AppBundle.Number
