import Assembler.Bits
import Assembler.Machine.WordSize
import Assembler.Text.Numeral

/-!
# Configurations

The word size of the machine and the addresses at which the segments start. Both addresses lie in
the address space of the word size.
-/

namespace Assembler

/-- Why a configuration is refused. -/
inductive ConfigFault where
  | wordSize (bits : Int)
  | base (name : String) (address : Int) (bits : Nat)
  deriving DecidableEq, Repr

/-- The text of a refusal. -/
def ConfigFault.text : ConfigFault → String
  | .wordSize bits =>
    "unsupported word size " ++ Text.decimal bits ++ " (expected one of 16, 32)"
  | .base name address bits =>
    name ++ " " ++ Text.markedHex address ++ " is outside the " ++ Text.decimalNat bits ++
      "-bit address space"

/-- Whether an address lies in the address space. -/
def WordSize.holds (w : WordSize) (address : Int) : Bool :=
  (Bits.unsignedRange w.bits).holds address

/-- How a program is to be assembled. Without an instruction base, the instructions follow the
data. -/
structure Config where
  dataBase : Int
  instructionBase : Option Int
  wordSize : WordSize
  dataBase_holds : wordSize.holds dataBase = true
  instructionBase_holds : ∀ base ∈ instructionBase, wordSize.holds base = true

namespace Config

/-- The configuration with the given values, if they are in order. -/
def make (dataBase : Int) (instructionBase : Option Int) (bits : Int) :
    Except ConfigFault Config :=
  match WordSize.ofBits? bits with
  | none => .error (.wordSize bits)
  | some w =>
    if data : w.holds dataBase then
      match instructionBase with
      | none => .ok ⟨dataBase, none, w, data, fun _ h => nomatch h⟩
      | some base =>
        if instructions : w.holds base then
          .ok ⟨dataBase, some base, w, data, fun _ h => Option.some.inj h ▸ instructions⟩
        else .error (.base "instruction base address" base w.bits)
    else .error (.base "data base address" dataBase w.bits)

/-- Data at address zero, instructions after them, 32-bit words. -/
def standard : Config := ⟨0, none, .bits32, by decide, fun _ h => nomatch h⟩

end Config

end Assembler
