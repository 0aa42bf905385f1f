import Assembler.Machine.Opcode
import Assembler.Machine.Register
import Assembler.Operand

/-!
# Instructions

The forms of instructions by the shape of their operands. Canonical forms stand for one machine
instruction; the last four forms are pseudo-instructions. A front end may also hand in something
that is no instruction, which is found out when it is expanded.
-/

namespace Assembler

/-- Instructions by the shape of their operands. -/
inductive Form where
  | alu (op : Opcode) (rd rs rt : Register)
  | flop (op : Opcode) (rd rs rt : Register)
  | immSigned (op : Opcode) (rd rs : Register) (imm : Operand)
  | immUnsigned (op : Opcode) (rd rs : Register) (uimm : Operand)
  | dataShuffle (op : Opcode) (rd rs : Register)
  | loadImm (op : Opcode) (rd : Register) (imm : Operand)
  | setImm (op : Opcode) (rd : Register) (uimm : Operand)
  | simple (op : Opcode)
  | branch (op : Opcode) (rs : Register) (target : Operand)
  | jumpReg (op : Opcode) (rs : Register)
  | loadStore (op : Opcode) (rd : Register) (offset : Operand) (rbase : Register)
  | jump (op : Opcode) (target : Operand)
  | push (rd : Register)
  | pop (rd : Register)
  | loadWord (rd : Register) (imm : Operand)
  | loadAddress (op : Opcode) (rd : Register) (target : Operand)
  deriving DecidableEq, Repr

/-- One field of a form. -/
inductive Field where
  | register (r : Register)
  | operand (o : Operand)
  deriving DecidableEq, Repr

/-- A field in assembly text, unless it is a number with too many digits. -/
def Field.text? : Field → Option Text
  | .register r => some r.text
  | .operand o => o.text?

namespace Form

/-- The opcode of a form. -/
def opcode : Form → Opcode
  | .alu op .. | .flop op .. | .immSigned op .. | .immUnsigned op .. | .dataShuffle op ..
  | .loadImm op .. | .setImm op .. | .simple op | .branch op .. | .jumpReg op ..
  | .loadStore op .. | .jump op .. | .loadAddress op .. => op
  | .push _ => .push
  | .pop _ => .pop
  | .loadWord .. => .lwi

/-- Whether a form has to be expanded before it is placed. -/
def isPseudo : Form → Bool
  | .push _ | .pop _ | .loadWord .. | .loadAddress .. => true
  | _ => false

/-- The opcode that an expansion is marked with: that of a pseudo-instruction. -/
def pseudoOpcode? (form : Form) : Option Opcode :=
  if form.isPseudo then some form.opcode else none

/-- The fields of a form with their names, in source order. -/
def fields : Form → List (String × Field)
  | .alu _ rd rs rt | .flop _ rd rs rt =>
    [("rd", .register rd), ("rs", .register rs), ("rt", .register rt)]
  | .immSigned _ rd rs imm => [("rd", .register rd), ("rs", .register rs), ("imm", .operand imm)]
  | .immUnsigned _ rd rs uimm =>
    [("rd", .register rd), ("rs", .register rs), ("uimm", .operand uimm)]
  | .dataShuffle _ rd rs => [("rd", .register rd), ("rs", .register rs)]
  | .loadImm _ rd imm => [("rd", .register rd), ("imm", .operand imm)]
  | .setImm _ rd uimm => [("rd", .register rd), ("uimm", .operand uimm)]
  | .simple _ => []
  | .branch _ rs target => [("rs", .register rs), ("target", .operand target)]
  | .jumpReg _ rs => [("rs", .register rs)]
  | .loadStore _ rd offset rbase =>
    [("rd", .register rd), ("offset", .operand offset), ("rbase", .register rbase)]
  | .jump _ target => [("target", .operand target)]
  | .push rd | .pop rd => [("rd", .register rd)]
  | .loadWord rd imm => [("rd", .register rd), ("imm", .operand imm)]
  | .loadAddress _ rd target => [("rd", .register rd), ("target", .operand target)]

/-- A form in assembly text, such as `ADD $V0, $V0, $V1`, unless a number in it has too many
digits. The base of a memory access stands in brackets after its offset. -/
def text? : Form → Option Text
  | .loadStore op rd offset rbase =>
    offset.text?.map fun offset =>
      op.name ++ " " ++ rd.text ++ ", " ++ offset ++ "(" ++ rbase.text ++ ")"
  | form =>
    match form.fields with
    | [] => some form.opcode.name
    | fields =>
      (Text.joined? ", " (fields.map fun f => f.2.text?)).map fun operands =>
        form.opcode.name ++ " " ++ operands

/-- The label that a form names as a jump target or as half of an address. -/
def label? : Form → Option Text
  | .branch _ _ target | .jump _ target => target.label?
  | .loadImm _ _ imm => imm.label?
  | .setImm _ _ uimm => uimm.label?
  | _ => none

end Form

/-- Something that is no instruction: what it is, and how it is shown. -/
structure Foreign where
  kind : String
  shown : String
  deriving DecidableEq, Repr

/-- What a front end hands in as an instruction. -/
inductive Instruction where
  | form (f : Form)
  | foreign (thing : Foreign)
  deriving DecidableEq, Repr

namespace Instruction

/-- Whether an instruction is a pseudo-instruction. -/
def isPseudo : Instruction → Bool
  | .form f => f.isPseudo
  | .foreign _ => false

/-- The opcode that an expansion is marked with. -/
def pseudoOpcode? : Instruction → Option Opcode
  | .form f => f.pseudoOpcode?
  | .foreign _ => none

/-- The label that an instruction names as a jump target or as half of an address. -/
def label? : Instruction → Option Text
  | .form f => f.label?
  | .foreign _ => none

end Instruction

end Assembler
