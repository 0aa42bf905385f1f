import Assembler.Base
import Assembler.Bits
import Assembler.Text.Blank
import Assembler.Text.Case
import Assembler.Text.Numeral

/-!
# Literals

The text of a number is an optional sign and decimal digits, or one of the marks `0b`, `0o`, `0x`
in either case and digits of that base. `Literal.parse` reads such a text and `Literal.interpret`
checks it against a field: a value that does not fit is refused, never cut off.

A marked literal is a bit pattern. Its magnitude has to fit the field, and a signed field takes it
as two's complement. A decimal literal is checked against the range of the field itself.
-/

namespace Assembler

/-- How a field takes its bits. -/
inductive Signedness where
  | signed
  | unsigned
  /-- Values of both kinds, taken as the unsigned pattern. -/
  | either
  deriving DecidableEq, Repr

/-- The name of a signedness in a message. -/
def Signedness.name : Signedness → String
  | .signed => "signed"
  | .unsigned => "unsigned"
  | .either => "signed or unsigned"

/-- A number as it was written, not yet checked against a field. The magnitude of a literal that was
read is never negative. -/
structure Literal where
  base : Base
  magnitude : Int
  negative : Bool := false
  text : Text := []
  deriving DecidableEq, Repr

/-- A value that does not fit its field. -/
structure Overflow where
  /-- The value as it is written, unless it has too many digits. -/
  text : Option Text
  width : Nat
  signedness : Signedness
  range : Range
  deriving DecidableEq, Repr

/-- Whether the value and its range are short enough to be written in a message. -/
def Overflow.isWritable (o : Overflow) : Bool :=
  o.text.isSome && Text.isWritable o.range.low && Text.isWritable o.range.high

namespace Literal

/-! ### Reading -/

/-- Why a text is no literal. -/
inductive Reason where
  | empty
  | signedMark
  | noDigits (base : Base)
  | badDigit (c : CodePoint) (base : Base)
  deriving DecidableEq, Repr

/-- The wording of a reason. -/
def Reason.message : Reason → Text
  | .empty => "empty literal"
  | .signedMark => "a sign is only allowed on decimal literals"
  | .noDigits base => "missing " ++ base.name ++ " digits"
  | .badDigit c base => "'" ++ [c] ++ "' is not a valid " ++ base.name ++ " digit"

/-- What reading a literal may end in: a malformed text, or more decimal digits than are read. -/
inductive Refusal where
  | malformed (reason : Reason)
  | tooLong (digits : Nat)
  deriving DecidableEq, Repr

/-- A base mark and the digits after it. -/
def marked? : Text → Option (Base × Text)
  | .char '0' :: c :: digits => (Base.ofMark? c).map fun base => (base, digits)
  | _ => none

/-- The first code point that is no digit of the base, as a small letter; `before` are the code
points that precede the digits, nearest first. -/
def firstBad? (base : Base) (before : Text) : Text → Option CodePoint
  | [] => none
  | c :: rest =>
    match base.digit? c with
    | some _ => firstBad? base (c :: before) rest
    | none => some ((Text.lowerAt before c rest).headD c)

/-- The magnitude of the digits of a literal. -/
def readDigits (base : Base) (before digits : Text) : Except Refusal Nat :=
  if digits.isEmpty then .error (.malformed (.noDigits base))
  else
    match firstBad? base before digits with
    | some c => .error (.malformed (.badDigit c base))
    | none =>
      if base = .dec ∧ Text.maxDigits < digits.length then .error (.tooLong digits.length)
      else .ok (base.valueOf digits)

/-- A decimal literal, of which a sign may be the first code point. -/
def readDecimal (raw : Text) : Except Refusal (Bool × Nat) :=
  match raw with
  | c :: digits =>
    if c = .char '+' ∨ c = .char '-' then
      match marked? digits with
      | some _ => .error (.malformed .signedMark)
      | none => (readDigits .dec [c] digits).map fun n => (c == .char '-', n)
    else (readDigits .dec [] raw).map fun n => (false, n)
  | [] => .error (.malformed .empty)

/-- The literal that a text without white space around it spells. -/
def ofTrimmed (raw : Text) : Except Refusal Literal :=
  match marked? raw with
  | some (base, digits) =>
    (readDigits base (raw.take 2).reverse digits).map fun n : Nat =>
      ⟨base, n, false, raw⟩
  | none =>
    (readDecimal raw).map fun (negative, n) => ⟨.dec, n, negative, raw⟩

/-- The literal that a text spells; white space around it does not count. -/
def parse (text : Text) : Except Refusal Literal := ofTrimmed text.trim

/-- The decimal literal of an integer. -/
def ofInt (n : Int) : Literal := ⟨.dec, n.natAbs, n < 0, Text.decimal n⟩

/-! ### Writing -/

/-- Whether the literal is a bit pattern, written with a base mark. -/
def isMarked (l : Literal) : Bool := l.base != .dec

/-- The number that a decimal literal stands for. -/
def signedValue (l : Literal) : Int := if l.negative then -l.magnitude else l.magnitude

/-- The literal as it was written, or as it would be. A decimal number with too many digits is not
written. -/
def spelling? (l : Literal) : Option Text :=
  if l.text ≠ [] then some l.text
  else
    match l.base with
    | .dec =>
      (Text.decimal? l.magnitude).map fun digits => (if l.negative then "-" else "") ++ digits
    | .hex => some (l.base.mark ++ Text.hex l.magnitude)
    | base => some (base.mark ++ Text.inBase base.radix l.magnitude)

/-! ### Interpretation -/

/-- The values that a field takes from a decimal literal. -/
def decimalRange (width : Nat) : Signedness → Range
  | .signed => Bits.signedRange width
  | .unsigned => Bits.unsignedRange width
  | .either => ⟨(Bits.signedRange width).low, (Bits.unsignedRange width).high⟩

/-- The value of a literal in a field of `width` bits. -/
def interpret (l : Literal) (width : Nat) (signedness : Signedness) : Except Overflow Int :=
  if l.isMarked then
    let range := Bits.unsignedRange width
    if range.high < l.magnitude then .error ⟨l.spelling?, width, signedness, range⟩
    else if signedness = .signed then .ok (Bits.signExtend l.magnitude width)
    else .ok l.magnitude
  else
    let range := decimalRange width signedness
    if range.holds l.signedValue then
      if signedness = .either then .ok (Bits.toUnsigned l.signedValue width)
      else .ok l.signedValue
    else .error ⟨l.spelling?, width, signedness, range⟩

/-- Whether the interpretation in a field without bits would look for its sign bit. -/
def needsSignBit (l : Literal) (signedness : Signedness) : Bool :=
  if l.isMarked then signedness == .signed && l.magnitude ≤ 0 else signedness != .unsigned

end Literal

/-- The range that a computed value is checked against. -/
def Signedness.range (width : Nat) : Signedness → Range
  | .signed => Bits.signedRange width
  | _ => Bits.unsignedRange width

/-- Check a computed value against a field; `name` says how to call it if it does not fit. -/
def requireFits (value : Int) (width : Nat) (signedness : Signedness) (name : Text := []) :
    Except Overflow Int :=
  if (signedness.range width).holds value then .ok value
  else
    .error ⟨if name = [] then Text.decimal? value else some name, width, signedness,
      signedness.range width⟩

end Assembler
