import Assembler.Fitting
import Assembler.Machine.WordSize
import Assembler.Program

/-!
# Expansion

`Form.expand` turns an instruction into machine instructions with checked operands:

* `PUSH r` is `SW r, 0($SP)` and `ADDI $SP, $SP, -W`, and `POP r` is `ADDI $SP, $SP, W` and
  `LW r, 0($SP)`, where `W` is the word size in bytes;
* `LWI r, n` is `LI r, n` if `n` fits 16 bits, and otherwise a load of each half;
* `LDA r, label` and `LIA r, label` are a load of each half of the address, whatever it is;
* any other instruction stays, its numbers replaced by their values.

`Form.wordCount` gives the length of the result without building it, so that addresses can be
assigned before labels are known. The word size is any number of bits here; a configuration allows
only those of the machine.
-/

namespace Assembler

/-! ### Operands -/

namespace Operand

/-- Check the number in a field of 16 bits. -/
def checkImmediate (o : Operand) (signedness : Signedness) (location : Option Location) :
    Except Error Operand :=
  (o.fit Bits.immediateWidth signedness location).map .number

/-- Check the operand of a load of 16 bits; halves of addresses stay. -/
def checkLoad (o : Operand) (signedness : Signedness) (location : Option Location) :
    Except Error Operand :=
  if o.isNumber then o.checkImmediate signedness location else .ok o

/-- Check a literal address; labels and addresses stay. -/
def checkTarget (o : Operand) (bits : Int) (location : Option Location) : Except Error Operand :=
  match o with
  | .fixed value => (value.fit bits .unsigned location).map fun n => .fixed (.number n)
  | other => .ok other

end Operand

/-! ### Forms -/

namespace Form

/-- Whether a value fits a signed immediate. -/
def fitsImmediate (value : Int) : Bool := (Bits.signedRange Bits.immediateWidth).holds value

/-- The number of machine instructions that a form becomes. -/
def wordCount (form : Form) (bits : Int) (location : Option Location) : Except Error Nat :=
  match form with
  | .push _ | .pop _ | .loadAddress .. => .ok 2
  | .loadWord _ imm =>
    (imm.fit bits .signed location).map fun value => if fitsImmediate value then 1 else 2
  | _ => .ok 1

/-- The loads of a whole word. -/
def loadWordForms (rd : Register) (value : Int) (width : Nat) : List Form :=
  if fitsImmediate value then [.loadImm .li rd (.number value)]
  else
    let halves := Bits.split (Bits.toUnsigned value width) Bits.immediateWidth
    [.loadImm .li rd (.number (Bits.signExtend halves.1 Bits.immediateWidth)),
      .setImm .lhi rd (.number halves.2)]

/-- A machine instruction with its operands checked. -/
def checkOperands (form : Form) (bits : Int) (location : Option Location) : Except Error Form :=
  match form with
  | .immSigned op rd rs imm =>
    (imm.checkImmediate .signed location).map (.immSigned op rd rs)
  | .immUnsigned op rd rs uimm =>
    (uimm.checkImmediate .unsigned location).map (.immUnsigned op rd rs)
  | .loadStore op rd offset rbase =>
    (offset.checkImmediate .signed location).map fun offset => .loadStore op rd offset rbase
  | .loadImm op rd imm => (imm.checkLoad .signed location).map (.loadImm op rd)
  | .setImm op rd uimm => (uimm.checkLoad .unsigned location).map (.setImm op rd)
  | .branch op rs target => (target.checkTarget bits location).map (.branch op rs)
  | .jump op target => (target.checkTarget bits location).map (.jump op)
  | other => .ok other

/-- The machine instructions of a form, in order. -/
def expand (form : Form) (bits : Int) (location : Option Location) : Except Error (List Form) :=
  let bytes := WordSize.bytesIn bits
  match form with
  | .push rd =>
    .ok [.loadStore .sw rd (.number 0) .sp, .immSigned .addi .sp .sp (.number (-bytes))]
  | .pop rd => .ok [.immSigned .addi .sp .sp (.number bytes), .loadStore .lw rd (.number 0) .sp]
  | .loadWord rd imm =>
    (imm.fit bits .signed location).map fun value => loadWordForms rd value bits.toNat
  | .loadAddress _ rd target => .ok [.loadImm .li rd target, .setImm .lhi rd target]
  | canonical => (canonical.checkOperands bits location).map fun form => [form]

/-- Whether each of some forms expands to itself. -/
def areStable (bits : Int) (location : Option Location) : List Form → Except Error Bool
  | [] => .ok true
  | form :: rest =>
    match form.expand bits location with
    | .error e => .error e
    | .ok forms => if forms = [form] then areStable bits location rest else .ok false

end Form

/-! ### Instructions -/

namespace Instruction

/-- The number of words to reserve; what is no instruction counts as one. -/
def wordCount (i : Instruction) (bits : Int) (location : Option Location) : Except Error Nat :=
  match i with
  | .form f => f.wordCount bits location
  | .foreign _ => .ok 1

/-- The machine instructions; what is no instruction is refused. -/
def expand (i : Instruction) (bits : Int) (location : Option Location) :
    Except Error (List Form) :=
  match i with
  | .form f => f.expand bits location
  | .foreign thing => .error (.fault (.notAnInstruction thing))

end Instruction

/-! ### The instruction segment -/

/-- An instruction at its address. -/
structure PlacedInstruction where
  address : Int
  instruction : Instruction
  /-- The statement that it comes from. -/
  location : Option Location
  /-- The label of the statement, on the first of its instructions. -/
  label : Option Text := none
  /-- The pseudo-instruction that it comes from. -/
  expandedFrom : Option Opcode := none
  deriving DecidableEq, Repr

/-- Place the instructions of one statement one word apart; the first takes the label. -/
def placeForms (bits : Int) (location : Location) (expandedFrom : Option Opcode) :
    Int → Option Text → List Form → List PlacedInstruction
  | _, _, [] => []
  | address, label, form :: rest =>
    ⟨address, .form form, location, label, expandedFrom⟩ ::
      placeForms bits location expandedFrom (address + WordSize.bytesIn bits) none rest

/-- The location of an instruction statement. -/
def instructionLocation (index : Nat) : Location := ⟨.instructions, index⟩

/-- Expand the statements from an index on, each at its address, for as many as there are
addresses. -/
def expandFrom (bits : Int) :
    Nat → List (Statement Instruction) → List Int → Except Error (List PlacedInstruction)
  | index, statement :: statements, address :: addresses =>
    match statement.body.expand bits (instructionLocation index) with
    | .error e => .error e
    | .ok forms =>
      match expandFrom bits (index + 1) statements addresses with
      | .error e => .error e
      | .ok rest =>
        .ok (placeForms bits (instructionLocation index) statement.body.pseudoOpcode? address
          statement.label forms ++ rest)
  | _, _, _ => .ok []

/-- Expand the instruction segment. -/
def expandSegment (bits : Int) (statements : List (Statement Instruction))
    (addresses : List Int) : Except Error (List PlacedInstruction) :=
  expandFrom bits 0 statements addresses

end Assembler
