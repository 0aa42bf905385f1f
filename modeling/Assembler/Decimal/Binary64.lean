/-!
# Binary floating point numbers

The 64-bit format as integers: a finite number is `mantissa * 2 ^ exponent` with a mantissa below
`2 ^ 53` and an exponent of at least -1074. `ofDecimal` rounds a decimal to the nearest number, a
half to the even mantissa.
-/

namespace Assembler

/-- A number of the 64-bit binary format. -/
inductive Binary64 where
  | notANumber
  | infinite (negative : Bool)
  | finite (negative : Bool) (mantissa : Nat) (exponent : Int)
  deriving DecidableEq, Repr

namespace Binary64

/-- The least exponent. -/
def minExponent : Int := -1074

/-- The greatest exponent. -/
def maxExponent : Int := 971

/-- Round the quotient to the nearest integer, a half to the even one. -/
def roundDiv (numerator denominator : Nat) : Nat :=
  let quotient := numerator / denominator
  let twice := 2 * (numerator % denominator)
  if twice < denominator then quotient
  else if denominator < twice then quotient + 1
  else quotient + quotient % 2

/-- `numerator / denominator` over `2 ^ exponent`, as a fraction. -/
def scaled (numerator denominator : Nat) (exponent : Int) : Nat × Nat :=
  match exponent with
  | .ofNat e => (numerator, Nat.shiftLeft denominator e)
  | .negSucc e => (Nat.shiftLeft numerator (e + 1), denominator)

/-- The number nearest to a positive fraction. -/
def ofFraction (negative : Bool) (numerator denominator : Nat) : Binary64 :=
  let guess : Int := (Nat.log2 numerator : Int) - (Nat.log2 denominator : Int) - 53
  let small := max guess minExponent
  let (n, d) := scaled numerator denominator small
  let exponent := if n / d < Nat.shiftLeft 1 53 then small else small + 1
  let (n, d) := scaled numerator denominator exponent
  let rounded := roundDiv n d
  let (mantissa, exponent) :=
    if rounded < Nat.shiftLeft 1 53 then (rounded, exponent) else (rounded / 2, exponent + 1)
  if maxExponent < exponent then .infinite negative else .finite negative mantissa exponent

/-- The number nearest to `digits * 10 ^ exponent`. Decimals beyond every finite number become
infinite and those below half the least number become zero. -/
def ofDecimal (negative : Bool) (digits : Nat) (exponent : Int) : Binary64 :=
  let size := (Nat.toDigits 10 digits).length + exponent
  if digits = 0 ∨ size < -330 then .finite negative 0 minExponent
  else if 310 < size then .infinite negative
  else
    match exponent with
    | .ofNat e => ofFraction negative (digits * Nat.pow 10 e) 1
    | .negSucc e => ofFraction negative digits (Nat.pow 10 (e + 1))

end Binary64

end Assembler
