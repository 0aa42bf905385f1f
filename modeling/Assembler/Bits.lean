/-!
# Bit fields

Ranges of fields of a given width, two's complement, and the halves of an address. All values are
unbounded integers.
-/

namespace Assembler

/-- The integers from `low` to `high`. -/
structure Range where
  low : Int
  high : Int
  deriving DecidableEq, Repr

/-- Whether an integer lies in a range. -/
def Range.holds (r : Range) (value : Int) : Bool := r.low ≤ value && value ≤ r.high

namespace Bits

/-- The number of patterns of a field of `width` bits. -/
def patterns (width : Nat) : Int := (Nat.pow 2 width : Nat)

/-- The values of a signed field; the width is at least one. -/
def signedRange (width : Nat) : Range := ⟨-patterns (width - 1), patterns (width - 1) - 1⟩

/-- The values of an unsigned field. -/
def unsignedRange (width : Nat) : Range := ⟨0, patterns width - 1⟩

/-- The pattern of an integer in a field. -/
def toUnsigned (value : Int) (width : Nat) : Int := value % patterns width

/-- The signed value of the low `width` bits of a pattern; the width is at least one. -/
def signExtend (pattern : Int) (width : Nat) : Int :=
  let low := toUnsigned pattern width
  if low < patterns (width - 1) then low else low - patterns width

/-- The low `width` bits and all the bits above them. -/
def split (value : Int) (width : Nat) : Int × Int :=
  (value % patterns width, value / patterns width)

/-- The integer with the given low bits and upper bits. -/
def join (low high : Int) (width : Nat) : Int :=
  high * patterns width + low % patterns width

/-- Width of an immediate operand, and of each half of an address. -/
def immediateWidth : Nat := 16

end Bits

end Assembler
