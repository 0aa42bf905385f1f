import Assembler.Expansion
import Assembler.SymbolTable

/-!
# Resolution

The second pass replaces every label operand by a number: a jump target by the address of its
label, a load operand by the low or the high half of it. Each use of a label is noted in the table
before it is looked up, so a failed pass leaves the uses up to the failing instruction.
-/

namespace Assembler

namespace Resolution

/-- Note the label that an instruction names. -/
def noteUse (symbols : SymbolTable) (placed : PlacedInstruction) : SymbolTable :=
  match placed.instruction.label? with
  | some name => symbols.note name placed.location
  | none => symbols

/-- The address of a jump target. A literal address has to be a computed number by now. -/
def resolveTarget (symbols : SymbolTable) (location : Option Location) :
    Operand → Except Error Operand
  | .label name => (symbols.lookup name location).map fun s => .address s.address
  | .fixed (.number n) => .ok (.address n)
  | .fixed value => .error (.fault (.uncheckedTarget value.kind))
  | other => .ok other

/-- An operand of a load that stands in the end; a literal address does not. -/
def finished (location : Option Location) (operand : Operand) : Except Error Operand :=
  match operand with
  | .fixed _ | .label _ =>
    match operand.text? with
    | some text => .error (.located location (.unresolved text))
    | none => .error (.fault .numberTooLong)
  | other => .ok other

/-- The low half of the address of a label. -/
def resolveLow (symbols : SymbolTable) (location : Option Location) (operand : Operand) :
    Except Error Operand :=
  match operand with
  | .label name =>
    (symbols.lookup name location).map fun s =>
      .address (Bits.split s.address Bits.immediateWidth).1
  | other => finished location other

/-- The high half of the address of a label, which has to fit 16 bits. -/
def resolveHigh (symbols : SymbolTable) (location : Option Location) (operand : Operand) :
    Except Error Operand :=
  match operand with
  | .label name =>
    match symbols.lookup name location with
    | .error e => .error e
    | .ok s =>
      let high := (Bits.split s.address Bits.immediateWidth).2
      let called : Text := "high half of '" ++ s.name ++ "' (0x" ++ Text.hex s.address ++ ")"
      (requireFitsAt high Bits.immediateWidth .unsigned location called).map .address
  | other => finished location other

/-- The form of an instruction with its label operand replaced. -/
def resolveForm (symbols : SymbolTable) (location : Option Location) (form : Form) :
    Except Error Form :=
  match form with
  | .branch op rs target => (resolveTarget symbols location target).map (.branch op rs)
  | .jump op target => (resolveTarget symbols location target).map (.jump op)
  | .loadImm op rd imm => (resolveLow symbols location imm).map (.loadImm op rd)
  | .setImm op rd uimm => (resolveHigh symbols location uimm).map (.setImm op rd)
  | other => .ok other

/-- An instruction with its label operand replaced. What is no instruction has none. -/
def resolveInstruction (symbols : SymbolTable) (location : Option Location) :
    Instruction → Except Error Instruction
  | .form f => (resolveForm symbols location f).map .form
  | .foreign thing => .ok (.foreign thing)

/-- The segment in which the label of an address load should be. -/
def expectedSegment : Option Opcode → Option Segment
  | some .lda => some .data
  | some .lia => some .instructions
  | _ => none

/-- A label of a segment in a message. -/
def labelKind : Segment → String
  | .data => "a data label"
  | .instructions => "an instruction label"

/-- The warning about a label in the wrong segment. -/
def mismatchWarning (location : Option Location) (op : Opcode) (expected : Segment)
    (symbol : Symbol) : Text :=
  Location.textOf location ++ ": " ++ op.name ++ " expects " ++ labelKind expected ++ ", but '" ++
    symbol.name ++ "' is " ++ labelKind symbol.segment

/-- The warning that an instruction gives rise to: one for the first word of an address load whose
label is in the other segment. -/
def mismatch? (symbols : SymbolTable) (placed : PlacedInstruction) : Option Text :=
  match placed.instruction, placed.expandedFrom with
  | .form (.loadImm _ _ (.label name)), some op =>
    match symbols.find? name, expectedSegment (some op) with
    | some symbol, some expected =>
      if symbol.segment = expected then none
      else some (mismatchWarning placed.location op expected symbol)
    | _, _ => none
  | _, _ => none

end Resolution

/-- What a pass over the instructions leaves: the table, the warnings, and the instructions or the
error. -/
structure Resolution where
  symbols : SymbolTable
  warnings : List Text
  outcome : Except Error (List PlacedInstruction)

/-- Replace the label operands of the instructions. -/
def resolve (symbols : SymbolTable) : List PlacedInstruction → Resolution
  | [] => ⟨symbols, [], .ok []⟩
  | placed :: rest =>
    let noted := Resolution.noteUse symbols placed
    match Resolution.resolveInstruction noted placed.location placed.instruction with
    | .error e => ⟨noted, [], .error e⟩
    | .ok instruction =>
      let after := resolve noted rest
      ⟨after.symbols, (Resolution.mismatch? noted placed).toList ++ after.warnings,
        after.outcome.map fun resolved => { placed with instruction } :: resolved⟩

end Assembler
