import Assembler.Decimal.Binary64
import Assembler.Text.Numeral

/-!
# The fewest digits that read back

`Binary64.text` writes a number with the fewest digits that round to it, and of those decimals the
nearest one. Exponents from -4 to 15 are written without one, and an integral number keeps `.0`.
-/

namespace Assembler.Binary64

/-- The reals that round to a number, in quarters of its unit: from `low` to `high` around
`centre`, the ends included if the mantissa is even. -/
structure Interval where
  low : Nat
  centre : Nat
  high : Nat
  closed : Bool

/-- The interval of a positive mantissa. The gap below a power of two is half as wide, except at
the least exponent. -/
def interval (mantissa : Nat) (exponent : Int) : Interval :=
  let below := if mantissa = Nat.shiftLeft 1 52 ∧ minExponent < exponent then 1 else 2
  ⟨4 * mantissa - below, 4 * mantissa, 4 * mantissa + 2, mantissa % 2 == 0⟩

/-- Whether the fraction `numerator / denominator` lies in the interval. -/
def Interval.holds (i : Interval) (numerator denominator : Nat) : Bool :=
  if i.closed then i.low * denominator ≤ numerator && numerator ≤ i.high * denominator
  else i.low * denominator < numerator && numerator < i.high * denominator

/-- A decimal `digits * 10 ^ exponent`. -/
structure Decimal where
  digits : Nat
  exponent : Int
  deriving DecidableEq, Repr

/-- The decimal in quarters of the unit `2 ^ exponent`, as a fraction. -/
def Decimal.inQuarters (d : Decimal) (exponent : Int) : Nat × Nat :=
  let (n, m) :=
    match d.exponent with
    | .ofNat e => (d.digits * Nat.pow 10 e, 1)
    | .negSucc e => (d.digits, Nat.pow 10 (e + 1))
  scaled n m (exponent - 2)

/-- The largest multiple of `10 ^ place` that is not above the number. -/
def floorAt (mantissa : Nat) (exponent place : Int) : Nat :=
  let (n, d) := scaled mantissa 1 (-exponent)
  match place with
  | .ofNat e => n / (d * Nat.pow 10 e)
  | .negSucc e => n * Nat.pow 10 (e + 1) / d

/-- The neighbour of the number on the grid `10 ^ place` that reads back, the nearer if both do and
the even one at equal distance. -/
def neighbour? (mantissa : Nat) (exponent place : Int) : Option Decimal :=
  let i := interval mantissa exponent
  let below : Decimal := ⟨floorAt mantissa exponent place, place⟩
  let above : Decimal := ⟨below.digits + 1, place⟩
  let (bn, bd) := below.inQuarters exponent
  let (an, ad) := above.inQuarters exponent
  match i.holds bn bd, i.holds an ad with
  | true, true =>
    let toBelow := i.centre * bd - bn
    let toAbove := an - i.centre * ad
    if toBelow * ad < toAbove * bd then some below
    else if toAbove * bd < toBelow * ad then some above
    else if below.digits % 2 = 0 then some below else some above
  | true, false => some below
  | false, true => some above
  | false, false => none

/-- The number of digits before the point: the least `p` with the number below `10 ^ p`, found by
counting down from `p`. -/
def pointPlace (mantissa : Nat) (exponent : Int) : Nat → Int → Int
  | 0, p => p
  | fuel + 1, p =>
    if floorAt mantissa exponent (p - 1) = 0 then pointPlace mantissa exponent fuel (p - 1) else p

/-- The first grid, coarse to fine, on which a neighbour reads back. -/
def shortestFrom (mantissa : Nat) (exponent : Int) : Nat → Int → Decimal
  | 0, place => ⟨floorAt mantissa exponent place, place⟩
  | fuel + 1, place =>
    match neighbour? mantissa exponent place with
    | some d => d
    | none => shortestFrom mantissa exponent fuel (place - 1)

/-- Drop the zeros at the end of the digits. -/
def dropZeros (digits : List Char) : List Char :=
  (digits.reverse.dropWhile (· == '0')).reverse

/-- The digits of a positive number, without zeros at the end, and the place of the point counted
from the first digit. -/
def shortestDigits (mantissa : Nat) (exponent : Int) : List Char × Int :=
  let place := pointPlace mantissa exponent 700 310
  let d := shortestFrom mantissa exponent 20 (place - 1)
  let digits := Nat.toDigits 10 d.digits
  (dropZeros digits, digits.length + d.exponent)

/-- Digits with the point in place, or with an exponent where the number is very large or small. -/
def layOut (digits : List Char) (point : Int) : String :=
  let exponent := point - 1
  if exponent < -4 ∨ 16 ≤ exponent then
    let mantissa :=
      match digits with
      | d :: e :: rest => String.ofList (d :: '.' :: e :: rest)
      | short => String.ofList short
    let size := Text.decimalNat exponent.natAbs
    let padded := if size.length < 2 then "0" ++ size else size
    mantissa ++ (if exponent < 0 then "e-" else "e+") ++ padded
  else if point ≤ 0 then
    "0." ++ Text.fill point.natAbs '0' ++ String.ofList digits
  else
    let whole := digits.take point.toNat
    let zeros := Text.fill (point.toNat - digits.length) '0'
    match digits.drop point.toNat with
    | [] => String.ofList whole ++ zeros ++ ".0"
    | rest => String.ofList whole ++ "." ++ String.ofList rest

/-- The text of a number. -/
def text : Binary64 → String
  | .notANumber => "nan"
  | .infinite negative => if negative then "-inf" else "inf"
  | .finite negative mantissa exponent =>
    let body :=
      if mantissa = 0 then "0.0"
      else
        let (digits, point) := shortestDigits mantissa exponent
        layOut digits point
    if negative then "-" ++ body else body

end Assembler.Binary64
