import Assembler.Text.Blank
import Assembler.Text.Case

/-!
# Registers

The machine has 32 registers with fixed indices.
-/

namespace Assembler

/-- The registers in the order of their indices. -/
inductive Register where
  | zero
  | v0 | v1
  | a0 | a1 | a2 | a3 | a4
  | t0 | t1 | t2 | t3 | t4 | t5 | t6 | t7 | t8 | t9
  | s0 | s1 | s2 | s3 | s4 | s5 | s6 | s7 | s8 | s9
  | sp | fp | rm | ra
  deriving DecidableEq, Repr

namespace Register

/-- The name of a register, without its mark. -/
def name : Register → String
  | .zero => "ZERO"
  | .v0 => "V0" | .v1 => "V1"
  | .a0 => "A0" | .a1 => "A1" | .a2 => "A2" | .a3 => "A3" | .a4 => "A4"
  | .t0 => "T0" | .t1 => "T1" | .t2 => "T2" | .t3 => "T3" | .t4 => "T4"
  | .t5 => "T5" | .t6 => "T6" | .t7 => "T7" | .t8 => "T8" | .t9 => "T9"
  | .s0 => "S0" | .s1 => "S1" | .s2 => "S2" | .s3 => "S3" | .s4 => "S4"
  | .s5 => "S5" | .s6 => "S6" | .s7 => "S7" | .s8 => "S8" | .s9 => "S9"
  | .sp => "SP" | .fp => "FP" | .rm => "RM" | .ra => "RA"

/-- Every register, in the order of the indices. -/
def all : List Register :=
  [.zero, .v0, .v1, .a0, .a1, .a2, .a3, .a4, .t0, .t1, .t2, .t3, .t4, .t5, .t6, .t7, .t8, .t9,
    .s0, .s1, .s2, .s3, .s4, .s5, .s6, .s7, .s8, .s9, .sp, .fp, .rm, .ra]

/-- The number of registers. -/
def count : Nat := 32

/-- The index of a register. -/
def index (r : Register) : Nat := r.ctorIdx

/-- A register as it is written in assembly text. -/
def text (r : Register) : String := "$" ++ r.name

/-- The register with exactly this name. -/
def ofName? (name : String) : Option Register := all.find? fun r => r.name = name

/-- The register that a token names, in any case and with or without its mark. -/
def ofToken? (token : Text) : Option Register :=
  match token.trim.upperAsciiText? with
  | some ('$' :: name) => ofName? (String.ofList name)
  | some name => ofName? (String.ofList name)
  | none => none

end Register

end Assembler
