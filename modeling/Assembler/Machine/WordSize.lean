/-!
# Word sizes
-/

namespace Assembler

/-- The word sizes of the machine. -/
inductive WordSize where
  | bits16
  | bits32
  deriving DecidableEq, Repr

namespace WordSize

/-- The number of bits in a word. -/
def bits : WordSize → Nat
  | .bits16 => 16
  | .bits32 => 32

/-- The number of whole bytes in a number of bits. -/
def bytesIn (bits : Int) : Int := bits / 8

/-- The number of bytes in a word. -/
def bytes (w : WordSize) : Int := bytesIn w.bits

/-- The word size with a given number of bits. -/
def ofBits? (bits : Int) : Option WordSize :=
  if bits = 16 then some .bits16 else if bits = 32 then some .bits32 else none

end WordSize

end Assembler
