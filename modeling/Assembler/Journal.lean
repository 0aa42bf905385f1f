import Assembler.Assembly

/-!
# Journals

A journal tells what an assembly did, step by step, up to its end or to the error that stopped it.
It is read off the results of the passes.
-/

namespace Assembler.Journal

/-- How much an entry matters. -/
inductive Level where
  | debug
  | info
  | warning
  deriving DecidableEq, Repr

/-- The name of a level. -/
def Level.name : Level → String
  | .debug => "DEBUG"
  | .info => "INFO"
  | .warning => "WARNING"

/-- One line of a journal. -/
structure Entry where
  level : Level
  text : Text
  deriving DecidableEq, Repr

/-- A count in an entry. -/
def count {α : Type} (items : List α) : String := Text.decimalNat items.length

/-- The statements of a program. -/
def statements (program : Program) : String :=
  count program.data ++ " data elements and " ++ count program.instructions ++ " instructions"

/-- The definition of a label. -/
def defined (s : Symbol) : Entry :=
  ⟨.debug, s.location.text ++ ": defined " ++ s.name ++ " = " ++ Text.address s.address ++ " in " ++
    s.segment.text⟩

/-- The entries of the first pass. -/
def ofLayout : Except Layout.Stop Layout → List Entry
  | .error stop => stop.symbols.symbols.map defined
  | .ok layout =>
    layout.symbols.symbols.map defined ++ layout.warnings.map (⟨.warning, ·⟩) ++
      [⟨.debug, "layout: data at " ++ Text.address layout.dataBase ++ " (" ++
        Text.decimal layout.dataSize ++ " bytes), instructions at " ++
        Text.address layout.instructionBase ++ " (" ++ Text.decimal layout.instructionSize ++
        " bytes), " ++ count layout.symbols.symbols ++ " symbols"⟩]

/-- The entries of the expansion of statements from an index on, up to the first that fails. -/
def ofExpansion (bits : Int) : Nat → List (Statement Instruction) → List Entry
  | _, [] => []
  | index, statement :: rest =>
    match statement.body.expand bits (instructionLocation index) with
    | .error _ => []
    | .ok forms =>
      let entry :=
        statement.body.pseudoOpcode?.map fun op =>
          (⟨.debug, (instructionLocation index).text ++ ": expanded " ++ op.name ++ " into " ++
            count forms ++ " instructions"⟩ : Entry)
      entry.toList ++ ofExpansion bits (index + 1) rest

/-- The entry of a label operand that was replaced. -/
def replaced (symbols : SymbolTable) (placed : PlacedInstruction) : List Entry :=
  match placed.instruction.label? with
  | none => []
  | some name =>
    match symbols.find? name with
    | none => []
    | some s =>
      let halves := Bits.split s.address Bits.immediateWidth
      let text : Text :=
        match placed.instruction with
        | .form (.loadImm ..) => "low(" ++ name ++ ") = " ++ Text.address halves.1
        | .form (.setImm ..) => "high(" ++ name ++ ") = " ++ Text.address halves.2
        | _ => name ++ " -> " ++ Text.address s.address
      [⟨.debug, Location.textOf placed.location ++ ": " ++ text⟩]

/-- The entries of the second pass, up to the first instruction that fails. -/
def ofResolution (symbols : SymbolTable) : List PlacedInstruction → List Entry
  | [] => []
  | placed :: rest =>
    match Resolution.resolveInstruction symbols placed.location placed.instruction with
    | .error _ => []
    | .ok _ =>
      ((Resolution.mismatch? symbols placed).toList.map (⟨.warning, ·⟩)) ++
        replaced symbols placed ++ ofResolution symbols rest

/-- The entries of a finished image. -/
def ofImage (image : Image) : List Entry :=
  [⟨.debug, "image: " ++ count image.data ++ " data elements, " ++ count image.instructions ++
      " instructions, " ++ count image.symbols.symbols ++ " symbols, " ++ count image.warnings ++
      " warnings"⟩,
    ⟨.info, "Assembled " ++ Text.decimal image.dataSize ++ " bytes of data and " ++
      Text.decimal image.instructionSize ++ " bytes of instructions"⟩]

/-- The journal of an assembly. -/
def ofAssembly (program : Program) (config : Config) : List Entry :=
  let layout := Layout.build program config
  let first := ⟨.info, "Assembling " ++ statements program⟩ :: ofLayout layout
  match layout with
  | .error _ => first
  | .ok layout =>
    let expansion := ofExpansion config.wordSize.bits 0 program.instructions
    match expandSegment config.wordSize.bits program.instructions layout.instructionAddresses with
    | .error _ => first ++ expansion
    | .ok placed =>
      let second := first ++ expansion ++ ofResolution layout.symbols placed
      match (resolve layout.symbols placed).outcome with
      | .error _ => second
      | .ok instructions =>
        let resolved := second ++ [⟨.debug, "resolved " ++ count instructions ++ " instructions"⟩]
        match assemble program config with
        | .error _ => resolved
        | .ok image => resolved ++ ofImage image

/-- The journal of the assembly of a file. -/
def ofFile (path : String) (loaded : Except Error Program) (config : Config) : List Entry :=
  let start : Entry := ⟨.info, "Loading " ++ path⟩
  match loaded with
  | .error _ => [start]
  | .ok program =>
    start :: ⟨.debug, "loaded " ++ statements program⟩ :: ofAssembly program config

/-- An entry as a line. By default only warnings are shown; a verbose journal shows all entries
with their levels. -/
def line (verbose : Bool) (entry : Entry) : Text :=
  if verbose then entry.level.name ++ ": " ++ entry.text ++ "\n"
  else if entry.level = .warning then entry.text ++ "\n"
  else []

/-- A journal as text. -/
def text (verbose : Bool) (entries : List Entry) : Text :=
  entries.flatMap (line verbose)

end Assembler.Journal
