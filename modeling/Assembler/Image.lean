import Assembler.Json.Printer
import Assembler.Layout
import Assembler.Resolution

/-!
# Images

An image is the result of an assembly. `Image.build` checks it as a whole: every label is defined
once and at the address of its statement, every name in use is defined, and no pseudo-instruction
is left. The table of an image is frozen.
-/

namespace Assembler

/-- A program with all addresses filled in. -/
structure Image where
  data : List PlacedData
  instructions : List PlacedInstruction
  symbols : SymbolTable
  dataBase : Int
  dataSize : Int
  instructionBase : Int
  instructionSize : Int
  wordBits : Int
  warnings : List Text
  deriving DecidableEq, Repr

namespace Image

/-! ### Building -/

/-- A label with the address and the location of its statement. -/
structure Labelled where
  name : Text
  address : Int
  location : Option Location
  deriving DecidableEq, Repr

/-- The label of a statement, unless it is empty. -/
def labelled? (label : Option Text) (address : Int) (location : Option Location) :
    Option Labelled :=
  match label with
  | some name => if name = [] then none else some ⟨name, address, location⟩
  | none => none

/-- The labels of the placed statements, data first. -/
def placedLabels (data : List PlacedData) (instructions : List PlacedInstruction) :
    List Labelled :=
  data.filterMap (fun d => labelled? d.label d.address d.location) ++
    instructions.filterMap fun i => labelled? i.label i.address i.location

/-- Check that each label is new among those before it and defined at its address. -/
def checkLabels (symbols : SymbolTable) (seen : List Labelled) : List Labelled → Except Error Unit
  | [] => .ok ()
  | l :: rest =>
    match seen.find? fun earlier => earlier.name = l.name with
    | some earlier => .error (.located l.location (.duplicate l.name earlier.location))
    | none =>
      match symbols.lookup l.name l.location with
      | .error e => .error e
      | .ok symbol =>
        if symbol.address = l.address then checkLabels symbols (l :: seen) rest
        else .error (.located l.location (.misplaced l.name symbol.address l.address))

/-- Check that the names in use are defined. -/
def checkReferences (symbols : SymbolTable) :
    List (Text × List (Option Location)) → Except Error Unit
  | [] => .ok ()
  | (name, uses) :: rest =>
    if symbols.contains name then checkReferences symbols rest
    else .error (.located uses.head?.join (symbols.undefined name))

/-- Check that no pseudo-instruction is left. -/
def checkCanonical : List PlacedInstruction → Except Error Unit
  | [] => .ok ()
  | placed :: rest =>
    match placed.instruction.pseudoOpcode? with
    | some op => .error (.located placed.location (.pseudoLeft op))
    | none => checkCanonical rest

/-- A check of the table as it stands. -/
def check (test : SymbolTable → Except Error Unit) : SymbolTable.Access Unit := do
  ExceptT.mk (return test (← get))

/-- Make the image of a layout and its resolved instructions, on the table of the layout. The table
is frozen once all checks have passed. -/
def make (layout : Layout) (instructions : List PlacedInstruction) (warnings : List Text) :
    SymbolTable.Access Image := do
  check fun symbols => checkLabels symbols [] (placedLabels layout.data instructions)
  check fun symbols => checkReferences symbols symbols.references
  check fun _ => checkCanonical instructions
  modify SymbolTable.freeze
  return {
    data := layout.data
    instructions := instructions
    symbols := ← get
    dataBase := layout.dataBase
    dataSize := layout.dataSize
    instructionBase := layout.instructionBase
    instructionSize := layout.instructionSize
    wordBits := layout.wordBits
    warnings := layout.warnings ++ warnings }

/-- The image of a layout and its resolved instructions or the error, with the table that is
left. -/
def finish (layout : Layout) (instructions : List PlacedInstruction) (warnings : List Text) :
    Except Error Image × SymbolTable :=
  (make layout instructions warnings).run.run layout.symbols

/-- The image of a layout and its resolved instructions. -/
def build (layout : Layout) (instructions : List PlacedInstruction) (warnings : List Text) :
    Except Error Image :=
  (finish layout instructions warnings).1

/-- The address of a label. -/
def addressOf (image : Image) (name : Text) : Except Error Int :=
  (image.symbols.lookup name none).map Symbol.address

/-- Everything but the symbol table. -/
def sameContents (a b : Image) : Bool :=
  a.data == b.data && a.instructions == b.instructions && a.dataBase == b.dataBase &&
    a.dataSize == b.dataSize && a.instructionBase == b.instructionBase &&
    a.instructionSize == b.instructionSize && a.wordBits == b.wordBits &&
    a.warnings == b.warnings

/-- Images are the same if their contents and their symbols are. -/
def same (a b : Image) : Bool := a.sameContents b && a.symbols.sameSymbols b.symbols

/-! ### The image as a document -/

/-- A field in the document of an image: a register by its text, an operand by its number. An
operand that is still to be computed has none. -/
def fieldJson : Field → Json
  | .register r => .string r.text
  | .operand (.number n) => .int n
  | .operand (.address a) => .int a
  | .operand _ => .null

/-- A label in a document. -/
def labelJson (label : Option Text) : Json := (label.map Json.string).getD .null

/-- A data element in the document of an image. -/
def dataJson (d : PlacedData) : Json :=
  .object
    [("address", .int d.address), ("label", labelJson d.label),
      ("kind", .string d.element.kindName), ("size", .int d.size),
      ("values", .array (d.values.map .int)), ("source", .string (Location.textOf d.location))]

/-- An instruction in the document of an image, its fields written by `field`. -/
def instructionJson (field : Field → Json) (i : PlacedInstruction) : Except Error Json :=
  match i.instruction with
  | .foreign thing => .error (.fault (.noOpcode thing))
  | .form form =>
    form.text.map fun text =>
      .object
        [("address", .int i.address), ("label", labelJson i.label),
          ("mnemonic", .string form.opcode.name),
          ("class", .string form.opcode.instructionClass.name),
          ("operands", .object (form.fields.map fun (name, f) => (name, field f))),
          ("expanded_from", labelJson (i.expandedFrom.map fun op => op.name)),
          ("source", .string (Location.textOf i.location)), ("text", .string text)]

/-- What is made of each item of a list, or the error of the first item of which nothing is. -/
def collect {α β : Type} (make : α → Except Error β) : List α → Except Error (List β)
  | [] => .ok []
  | item :: rest =>
    match make item with
    | .error e => .error e
    | .ok first =>
      match collect make rest with
      | .error e => .error e
      | .ok others => .ok (first :: others)

/-- A symbol in the document of an image. -/
def symbolJson (s : Symbol) : Json :=
  .object
    [("name", .string s.name), ("address", .int s.address), ("segment", .string s.segment.name)]

/-- The document of an image, the fields of its instructions written by `field`. -/
def toJsonWith (field : Field → Json) (image : Image) : Except Error Json :=
  (collect (instructionJson field) image.instructions).map fun instructions =>
    .object
      [("word_size", .int image.wordBits), ("data_base", .int image.dataBase),
        ("data_size", .int image.dataSize), ("instruction_base", .int image.instructionBase),
        ("instruction_size", .int image.instructionSize),
        ("data", .array (image.data.map dataJson)),
        ("instructions", .array instructions),
        ("symbols", .array (image.symbols.symbols.map symbolJson)),
        ("warnings", .array (image.warnings.map .string))]

/-- The document of an image. -/
def toJson (image : Image) : Except Error Json := image.toJsonWith fieldJson

/-- The first operand of a form that is still to be computed. -/
def openOperand? (form : Form) : Option Operand :=
  form.fields.findSome? fun (_, field) =>
    match field with
    | .operand o => if o.isFinal then none else some o
    | .register _ => none

/-- The first operand of an image that is still to be computed. -/
def firstOpen? (image : Image) : Option Operand :=
  image.instructions.findSome? fun placed =>
    match placed.instruction with
    | .form form => openOperand? form
    | .foreign _ => none

/-- The text of an image file, which holds numbers only. -/
def fileText (image : Image) : Except Error String :=
  match image.toJson with
  | .error e => .error e
  | .ok json =>
    match image.firstOpen? with
    | some o => .error (.fault (.notStorable o.kind))
    | none => .ok (json.pretty ++ "\n")

/-! ### Listings -/

/-- The number of digits of an address. -/
def addressDigits (image : Image) : Nat := (image.wordBits / 4).toNat

/-- The widest column of a listing. -/
def maxColumn : Int := 9223372036854775807

/-- The width of the address column of a listing. -/
def addressColumn (image : Image) : Except Error Nat :=
  let width := image.wordBits / 4
  if width < 0 then .error (.fault .negativeColumn)
  else if maxColumn < width then .error (.fault .columnTooWide)
  else .ok width.toNat

/-- A label in the column of labels. -/
def labelColumn (label : Option Text) : Text :=
  match label with
  | some name => Text.padRight 16 (if name = [] then [] else name ++ ":")
  | none => Text.padRight 16 []

/-- One line of the listing. -/
def listingLine (digits : Nat) (address : Int) (label : Option Text) (text : Text) : Text :=
  Text.hexPadded digits address ++ "  " ++ labelColumn label ++ "  " ++ text

/-- A data element in the listing. -/
def dataLine (digits : Nat) (d : PlacedData) : Except Error Text :=
  d.element.text.map (listingLine digits d.address d.label)

/-- The text of an instruction with the pseudo-instruction that it comes from. -/
def withPseudo (expandedFrom : Option Opcode) (text : Text) : Text :=
  match expandedFrom with
  | some op => Text.padRight 28 text ++ "; " ++ op.name
  | none => text

/-- An instruction in the listing. -/
def instructionLine (digits : Nat) (i : PlacedInstruction) : Except Error Text :=
  i.instruction.text.map fun text =>
    listingLine digits i.address i.label (withPseudo i.expandedFrom text)

/-- A symbol in the listing. -/
def symbolColumn (digits : Nat) (s : Symbol) : Text :=
  Text.padRight 20 s.name ++ " = 0x" ++ Text.hexPadded digits s.address ++ "  " ++ s.segment.text

/-- Lines, each with its line feed. -/
def lines (ls : List Text) : Text := List.intercalate ("\n" : Text) ls ++ "\n"

/-- The head of a listing. -/
def listingHead (digits : Nat) : List Text :=
  ["vasm Assembler Listing", Text.fill 60 '=', [],
    Text.padRight digits "Addr" ++ "  " ++ Text.padRight 16 "Label" ++ "  Source",
    Text.fill 60 '-']

/-- The listing: addresses, labels and elements, then the symbol table. -/
def listing (image : Image) : Except Error Text :=
  match image.addressColumn with
  | .error e => .error e
  | .ok digits =>
    match collect (dataLine digits) image.data with
    | .error e => .error e
    | .ok data =>
      (collect (instructionLine digits) image.instructions).map fun instructions =>
        lines
          (listingHead digits ++ data ++ instructions ++
            ([[], "Symbol Table", Text.fill 30 '-'] : List Text) ++
            image.symbols.symbols.map (symbolColumn digits))

/-- A line of the symbol file: name, address and segment. -/
def symbolLine (digits : Nat) (s : Symbol) : Text :=
  s.name ++ " 0x" ++ Text.hexPadded digits s.address ++ " " ++ s.segment.name

/-- The symbol file. -/
def symbolListing (image : Image) : Text :=
  lines
    ((["# Symbol table", "# Generated by vasm"] : List Text) ++
      image.symbols.symbols.map (symbolLine image.addressDigits))

end Image

end Assembler
