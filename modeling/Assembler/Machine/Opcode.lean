import Assembler.Text.Blank
import Assembler.Text.Case

/-!
# Opcodes

Every opcode belongs to a class. The class fixes the operands, except that each
pseudo-instruction has a shape of its own.
-/

namespace Assembler

/-- Families of instructions with the same operands. -/
inductive InstructionClass where
  | alu | flop | immSigned | immUnsigned | dataShuffle | loadImm | setImm | simple | branch
  | jumpReg | loadStore | jump | pseudo
  deriving DecidableEq, Repr

/-- The name of a class in an image. -/
def InstructionClass.name : InstructionClass → String
  | .alu => "alu"
  | .flop => "flop"
  | .immSigned => "imm-signed"
  | .immUnsigned => "imm-unsigned"
  | .dataShuffle => "data-shuffle"
  | .loadImm => "load-imm"
  | .setImm => "set-imm"
  | .simple => "simple"
  | .branch => "branch"
  | .jumpReg => "jump-reg"
  | .loadStore => "load-store"
  | .jump => "jump"
  | .pseudo => "pseudo"

/-- What an operand position takes. -/
inductive OperandKind where
  | register
  | literal
  | identifier
  /-- A literal or an identifier. -/
  | target
  deriving DecidableEq, Repr

/-- The name of an operand kind. -/
def OperandKind.name : OperandKind → String
  | .register => "register"
  | .literal => "literal"
  | .identifier => "identifier"
  | .target => "target"

/-- An operand kind in a complaint about an operand of another kind. -/
def OperandKind.expectation : OperandKind → String
  | .target => "literal or identifier"
  | kind => kind.name

/-- The opcodes, pseudo-instructions last. -/
inductive Opcode where
  | add | sub | mul | mulu | div | divu | rem | remu | and | or | xor | nand | nor | xnor
  | sll | srl | sra | slt | sltu
  | fadd | fsub | fmul | fdiv
  | addi | subi | muli | divi | remi | slti | slli | srli | srai
  | andi | ori | xori | nandi | nori | xnori | sltiu
  | flip | itof | ftoi
  | li | lhi
  | halt | nop
  | bez | bnz
  | jr | jalr
  | lb | lbu | lh | lhu | lw | sb | sh | sw
  | jmp | jal
  | push | pop | lwi | lda | lia
  deriving DecidableEq, Repr

namespace Opcode

/-- The mnemonic of an opcode. -/
def name : Opcode → String
  | .add => "ADD" | .sub => "SUB" | .mul => "MUL" | .mulu => "MULU" | .div => "DIV"
  | .divu => "DIVU" | .rem => "REM" | .remu => "REMU" | .and => "AND" | .or => "OR"
  | .xor => "XOR" | .nand => "NAND" | .nor => "NOR" | .xnor => "XNOR" | .sll => "SLL"
  | .srl => "SRL" | .sra => "SRA" | .slt => "SLT" | .sltu => "SLTU"
  | .fadd => "FADD" | .fsub => "FSUB" | .fmul => "FMUL" | .fdiv => "FDIV"
  | .addi => "ADDI" | .subi => "SUBI" | .muli => "MULI" | .divi => "DIVI" | .remi => "REMI"
  | .slti => "SLTI" | .slli => "SLLI" | .srli => "SRLI" | .srai => "SRAI"
  | .andi => "ANDI" | .ori => "ORI" | .xori => "XORI" | .nandi => "NANDI" | .nori => "NORI"
  | .xnori => "XNORI" | .sltiu => "SLTIU"
  | .flip => "FLIP" | .itof => "ITOF" | .ftoi => "FTOI"
  | .li => "LI" | .lhi => "LHI"
  | .halt => "HALT" | .nop => "NOP"
  | .bez => "BEZ" | .bnz => "BNZ"
  | .jr => "JR" | .jalr => "JALR"
  | .lb => "LB" | .lbu => "LBU" | .lh => "LH" | .lhu => "LHU" | .lw => "LW"
  | .sb => "SB" | .sh => "SH" | .sw => "SW"
  | .jmp => "JMP" | .jal => "JAL"
  | .push => "PUSH" | .pop => "POP" | .lwi => "LWI" | .lda => "LDA" | .lia => "LIA"

/-- Every opcode, class by class. -/
def all : List Opcode :=
  [.add, .sub, .mul, .mulu, .div, .divu, .rem, .remu, .and, .or, .xor, .nand, .nor, .xnor,
    .sll, .srl, .sra, .slt, .sltu, .fadd, .fsub, .fmul, .fdiv,
    .addi, .subi, .muli, .divi, .remi, .slti, .slli, .srli, .srai,
    .andi, .ori, .xori, .nandi, .nori, .xnori, .sltiu, .flip, .itof, .ftoi, .li, .lhi,
    .halt, .nop, .bez, .bnz, .jr, .jalr, .lb, .lbu, .lh, .lhu, .lw, .sb, .sh, .sw,
    .jmp, .jal, .push, .pop, .lwi, .lda, .lia]

/-- The class of an opcode. -/
def instructionClass : Opcode → InstructionClass
  | .add | .sub | .mul | .mulu | .div | .divu | .rem | .remu | .and | .or | .xor | .nand | .nor
  | .xnor | .sll | .srl | .sra | .slt | .sltu => .alu
  | .fadd | .fsub | .fmul | .fdiv => .flop
  | .addi | .subi | .muli | .divi | .remi | .slti | .slli | .srli | .srai => .immSigned
  | .andi | .ori | .xori | .nandi | .nori | .xnori | .sltiu => .immUnsigned
  | .flip | .itof | .ftoi => .dataShuffle
  | .li => .loadImm
  | .lhi => .setImm
  | .halt | .nop => .simple
  | .bez | .bnz => .branch
  | .jr | .jalr => .jumpReg
  | .lb | .lbu | .lh | .lhu | .lw | .sb | .sh | .sw => .loadStore
  | .jmp | .jal => .jump
  | .push | .pop | .lwi | .lda | .lia => .pseudo

/-- Whether an opcode is a pseudo-instruction. -/
def isPseudo (op : Opcode) : Bool := op.instructionClass == .pseudo

/-- The operands of an opcode in source order. -/
def operands (op : Opcode) : List OperandKind :=
  match op.instructionClass with
  | .alu | .flop => [.register, .register, .register]
  | .immSigned | .immUnsigned => [.register, .register, .literal]
  | .dataShuffle => [.register, .register]
  | .loadImm | .setImm => [.register, .literal]
  | .simple => []
  | .branch => [.register, .target]
  | .jumpReg => [.register]
  | .loadStore => [.register, .literal, .register]
  | .jump => [.target]
  | .pseudo =>
    match op with
    | .lwi => [.register, .literal]
    | .lda | .lia => [.register, .identifier]
    | _ => [.register]

/-- The opcodes of a class. -/
def inClass (c : InstructionClass) : List Opcode := all.filter fun op => op.instructionClass = c

/-- The opcode with exactly this mnemonic. -/
def ofName? (name : String) : Option Opcode := all.find? fun op => op.name = name

/-- The opcode that a mnemonic names, in any case. -/
def ofMnemonic? (mnemonic : Text) : Option Opcode :=
  match mnemonic.trim.upperAsciiText? with
  | some name => ofName? (String.ofList name)
  | none => none

end Opcode

end Assembler
