import Assembler.Text.Basic

/-!
# Numerals and padding

How integers and columns are written.
-/

namespace Assembler.Text

/-- Decimal digits, most significant first. -/
def decimalNat (n : Nat) : String := String.ofList (Nat.toDigits 10 n)

/-- Decimal text with a sign for negative numbers. -/
def decimal : Int → String
  | .ofNat n => decimalNat n
  | .negSucc n => "-" ++ decimalNat (n + 1)

/-- The most digits of a decimal number that is read or written. -/
def maxDigits : Nat := 4300

/-- The first number that has more digits. -/
def digitLimit : Nat := Nat.pow 10 maxDigits

/-- Whether a number is short enough to be written in decimal. -/
def isWritable (n : Int) : Bool := n.natAbs < digitLimit

/-- Decimal text, unless it has too many digits. -/
def decimal? (n : Int) : Option Text := if isWritable n then some (decimal n) else none

/-- Digits in a base of at most ten, with a sign for negative numbers. -/
def inBase (base : Nat) : Int → String
  | .ofNat n => String.ofList (Nat.toDigits base n)
  | .negSucc n => "-" ++ String.ofList (Nat.toDigits base (n + 1))

/-- `count` copies of one character. -/
def fill (count : Nat) (c : Char) : String := String.ofList (List.replicate count c)

/-- Capital hexadecimal digits. -/
def hexDigits (n : Nat) : List Char := (Nat.toDigits 16 n).map Char.toUpper

/-- Hexadecimal digits filled with zeros to `width` characters, the sign counted among them. -/
def hexPadded (width : Nat) : Int → String
  | .ofNat n =>
    fill (width - (hexDigits n).length) '0' ++ String.ofList (hexDigits n)
  | .negSucc n =>
    "-" ++ fill (width - 1 - (hexDigits (n + 1)).length) '0' ++ String.ofList (hexDigits (n + 1))

/-- Hexadecimal text with a sign for negative numbers. -/
def hex (n : Int) : String := hexPadded 0 n

/-- An address in a message: `0x` and at least four digits. -/
def address (n : Int) : String := "0x" ++ hexPadded 4 n

/-- Small hexadecimal digits filled with zeros to `width`. -/
def smallHex (width : Nat) (n : Nat) : String :=
  let digits := Nat.toDigits 16 n
  fill (width - digits.length) '0' ++ String.ofList digits

/-- A hexadecimal number with its mark, the sign in front of it. -/
def markedHex : Int → String
  | .ofNat n => "0x" ++ smallHex 0 n
  | .negSucc n => "-0x" ++ smallHex 0 (n + 1)

/-- The texts in order with a separator between them, if there are texts for all. -/
def joined? (separator : Text) (parts : List (Option Text)) : Option Text :=
  if parts.all Option.isSome then some (List.intercalate separator (parts.filterMap id))
  else none

/-- Fill a column with spaces on the right. -/
def padRight (width : Nat) (t : Text) : Text := t ++ fill (width - t.length) ' '

end Assembler.Text
