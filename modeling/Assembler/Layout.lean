import Assembler.Config
import Assembler.Expansion
import Assembler.SymbolTable

/-!
# Layout

The first pass gives every statement an address, data before instructions, and enters the labels
of both segments into one table. A statement starts where the one before it ends, and its last
byte has to lie in the address space; a statement without bytes counts as one here.
-/

namespace Assembler

/-- A data element at its address. -/
structure PlacedData where
  address : Int
  element : Element
  location : Option Location
  label : Option Text
  size : Int
  values : List Int := []
  deriving DecidableEq, Repr

/-- The addresses of a program. -/
structure Layout where
  symbols : SymbolTable
  data : List PlacedData
  /-- The address of each instruction statement. -/
  instructionAddresses : List Int
  dataBase : Int
  dataSize : Int
  instructionBase : Int
  instructionSize : Int
  wordBits : Int
  warnings : List Text := []
  deriving DecidableEq, Repr

namespace Layout

/-- Where a pass stopped: the error, and the table as it stood. -/
structure Stop where
  error : Error
  symbols : SymbolTable

/-- The end of a segment: the next free address, what was placed, and the table. -/
structure Walked (β : Type) where
  next : Int
  placed : List β
  symbols : SymbolTable

/-- Enter the label of a statement, if it has one. -/
def defineLabel (symbols : SymbolTable) (label : Option Text) (address : Int)
    (location : Location) : Except Error SymbolTable :=
  match label with
  | none => .ok symbols
  | some name => symbols.define name address location.segment location

/-- Check that the last byte of a statement lies in the address space. -/
def checkEnd (w : WordSize) (address size : Int) (location : Location) : Except Error Int :=
  let last := address + max size 1 - 1
  requireFitsAt last w.bits .unsigned location ("0x" ++ Text.hex last)

/-- The size of a statement and what to record for it. -/
abbrev Placing (α β : Type) := Int → Location → Statement α → Except Error (Int × β)

/-- Place the statements of a segment from an index and an address on. -/
def walk {α β : Type} (w : WordSize) (segment : Segment) (place : Placing α β) :
    Nat → Int → SymbolTable → List (Statement α) → Except Stop (Walked β)
  | _, address, symbols, [] => .ok ⟨address, [], symbols⟩
  | index, address, symbols, statement :: rest =>
    let location : Location := ⟨segment, index⟩
    match defineLabel symbols statement.label address location with
    | .error e => .error ⟨e, symbols⟩
    | .ok symbols =>
      match place address location statement with
      | .error e => .error ⟨e, symbols⟩
      | .ok (size, record) =>
        match checkEnd w address size location with
        | .error e => .error ⟨e, symbols⟩
        | .ok _ =>
          match walk w segment place (index + 1) (address + size) symbols rest with
          | .error stop => .error stop
          | .ok walked => .ok ⟨walked.next, record :: walked.placed, walked.symbols⟩

/-- Place a data statement. -/
def placeData (w : WordSize) : Placing Element PlacedData := fun address location statement =>
  match statement.body.size w.bits location with
  | .error e => .error e
  | .ok size =>
    match statement.body.values location with
    | .error e => .error e
    | .ok values =>
      .ok (size, ⟨address, statement.body, location, statement.label, size, values⟩)

/-- Place an instruction statement. -/
def placeInstruction (w : WordSize) : Placing Instruction Int :=
  fun address location statement =>
    (statement.body.wordCount w.bits location).map fun count : Nat => (count * w.bytes, address)

/-- Whether both segments hold bytes and have one in common. -/
def overlaps (dataBase dataEnd instructionBase instructionEnd : Int) : Bool :=
  0 < dataEnd - dataBase && 0 < instructionEnd - instructionBase &&
    instructionBase < dataEnd && dataBase < instructionEnd

/-- The warning about segments that overlap. -/
def overlapWarning (dataBase dataEnd instructionBase instructionEnd : Int) : Text :=
  "instruction segment " ++ Text.address instructionBase ++ ".." ++
    Text.address (instructionEnd - 1) ++ " overlaps data segment " ++ Text.address dataBase ++
    ".." ++ Text.address (dataEnd - 1)

/-- The warnings of a layout. Only a configured instruction base can lead to an overlap. -/
def layoutWarnings (config : Config) (dataEnd instructionBase instructionEnd : Int) :
    List Text :=
  if config.instructionBase.isSome &&
      overlaps config.dataBase dataEnd instructionBase instructionEnd then
    [overlapWarning config.dataBase dataEnd instructionBase instructionEnd]
  else []

/-- The layout of a program, or where the pass stopped. -/
def build (program : Program) (config : Config) : Except Stop Layout :=
  let w := config.wordSize
  match walk w .data (placeData w) 0 config.dataBase {} program.data with
  | .error stop => .error stop
  | .ok data =>
    let base := config.instructionBase.getD data.next
    match walk w .instructions (placeInstruction w) 0 base data.symbols program.instructions with
    | .error stop => .error stop
    | .ok code =>
      .ok
        { symbols := code.symbols
          data := data.placed
          instructionAddresses := code.placed
          dataBase := config.dataBase
          dataSize := data.next - config.dataBase
          instructionBase := base
          instructionSize := code.next - base
          wordBits := w.bits
          warnings := layoutWarnings config data.next base code.next }

end Layout

end Assembler
