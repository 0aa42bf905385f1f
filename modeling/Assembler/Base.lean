import Assembler.Text.Basic

/-!
# Bases and digits

The bases in which numbers are written, and the values of digits in them.
-/

namespace Assembler

/-- The base in which a number is written. -/
inductive Base where
  | bin
  | oct
  | dec
  | hex
  deriving DecidableEq, Repr

namespace Base

/-- The number of digits of a base. -/
def radix : Base → Nat
  | .bin => 2
  | .oct => 8
  | .dec => 10
  | .hex => 16

/-- The name of a base in a message. -/
def name : Base → String
  | .bin => "binary"
  | .oct => "octal"
  | .dec => "decimal"
  | .hex => "hexadecimal"

/-- The base that a code point announces after a zero. -/
def ofMark? : CodePoint → Option Base
  | .char 'b' | .char 'B' => some .bin
  | .char 'o' | .char 'O' => some .oct
  | .char 'x' | .char 'X' => some .hex
  | _ => none

/-- The mark in front of the digits. -/
def mark : Base → String
  | .bin => "0b"
  | .oct => "0o"
  | .dec => ""
  | .hex => "0x"

/-- The value of a digit, letters in either case. -/
def digit? (base : Base) : CodePoint → Option Nat
  | .char c =>
    let value :=
      if '0' ≤ c ∧ c ≤ '9' then c.toNat - 48
      else if 'a' ≤ c ∧ c ≤ 'f' then c.toNat - 87
      else if 'A' ≤ c ∧ c ≤ 'F' then c.toNat - 55
      else 16
    if value < base.radix then some value else none
  | .surrogate _ => none

/-- The value of digits. -/
def valueOf (base : Base) (digits : Text) : Nat :=
  digits.foldl (fun n c => n * base.radix + (base.digit? c).getD 0) 0

end Base

end Assembler
