import Assembler.Fitting
import Assembler.Program
import Assembler.Text.Order

/-!
# Documents

A document is a JSON object with a list of data entries and a list of instruction entries.
`Program.ofJson` builds the program that it describes, or tells what is wrong with the first bad
entry. Literal texts are read here and checked against their fields later.
-/

namespace Assembler

namespace Document

/-- The label of an entry. -/
def readLabel (entry : List (Text × Json)) (location : Location) :
    Except Error (Option Text) :=
  match Json.field? "label" entry with
  | none => .ok none
  | some .null => .ok none
  | some (.string name) =>
    if name = [] then .error (.shape location .label) else .ok (some name)
  | some _ => .error (.shape location .label)

/-- A literal: its text, or an integer. -/
def readLiteral (value : Json) (location : Location) : Except Error Literal :=
  match value with
  | .string text => parseLiteral text location
  | .int n =>
    match Text.decimal? n with
    | some text => parseLiteral text location
    | none => .error (.fault .numberTooLong)
  | other => .error (.shapeOf location other (.literalText other))

/-- The values of a data list. -/
def readLiterals (location : Location) : List Json → Except Error (List Literal)
  | [] => .ok []
  | value :: rest =>
    match readLiteral value location with
    | .error e => .error e
    | .ok l =>
      match readLiterals location rest with
      | .error e => .error e
      | .ok ls => .ok (l :: ls)

/-- The list kind of a name. -/
def listKind? (name : Text) : Option ListKind :=
  if name = "byte" then some .byte
  else if name = "short" then some .short
  else if name = "word" then some .word
  else none

/-- A data list of a kind. -/
def readList (kind : ListKind) (entry : List (Text × Json)) (location : Location) :
    Except Error Element :=
  match Json.field? "values" entry with
  | some (.array (value :: rest)) =>
    (readLiterals location (value :: rest)).map fun ls => .list kind (ls.map .numeral)
  | _ => .error (.shape location (.values kind.name))

/-- The element of a data entry. -/
def readElement (entry : List (Text × Json)) (location : Location) : Except Error Element :=
  match (Json.field? "kind" entry).getD .null with
  | .string name =>
    if name = "block" then
      match Json.field? "size" entry with
      | none => .error (.shape location .blockSize)
      | some size => (readLiteral size location).map fun l => .block (.numeral l)
    else
      match listKind? name with
      | some kind => readList kind entry location
      | none => .error (.shape location (.dataKind (.string name)))
  | .array _ => .error (.fault (.compoundKind false))
  | .object _ => .error (.fault (.compoundKind true))
  | other => .error (.shapeOf location other (.dataKind other))

/-- A data entry: first its label is looked at, then its element. -/
def readData (value : Json) (location : Location) : Except Error (Statement Element) :=
  match value with
  | .object entry =>
    match readLabel entry location with
    | .error e => .error e
    | .ok label => (readElement entry location).map fun element => ⟨element, label⟩
  | _ => .error (.shape location .dataNotAnObject)

/-- An argument of an instruction that was read. -/
inductive Argument where
  | register (r : Register)
  | literal (l : Literal)
  | identifier (name : Text)

/-- Whether an operand key stands for the expected kind. -/
def accepts (kind : OperandKind) (key : Text) : Bool :=
  match kind with
  | .register => key == "register"
  | .literal => key == "literal"
  | .identifier => key == "identifier"
  | .target => key == "literal" || key == "identifier"

/-- The operand that a key and its value describe. -/
def readKeyed (key : Text) (value : Json) (location : Location) : Except Error Argument :=
  if key = "register" then
    match value with
    | .string token =>
      match Register.ofToken? token with
      | some r => .ok (.register r)
      | none => .error (.shape location (.register value))
    | other => .error (.shapeOf location other (.register other))
  else if key = "literal" then (readLiteral value location).map .literal
  else
    match value with
    | .string name =>
      if name = [] then .error (.shape location .identifier) else .ok (.identifier name)
    | _ => .error (.shape location .identifier)

/-- One operand, an object with one field. -/
def readOperand (op : Opcode) (kind : OperandKind) (value : Json) (location : Location) :
    Except Error Argument :=
  match value with
  | .object [(key, value)] =>
    if accepts kind key then readKeyed key value location
    else .error (.shape location (.operandKind op kind key))
  | _ => .error (.shape location (.operandShape op))

/-- The operands in order, for as many kinds as there are. -/
def readOperands (op : Opcode) (location : Location) :
    List OperandKind → List Json → Except Error (List Argument)
  | kind :: kinds, value :: values =>
    match readOperand op kind value location with
    | .error e => .error e
    | .ok operand =>
      match readOperands op location kinds values with
      | .error e => .error e
      | .ok operands => .ok (operand :: operands)
  | _, _ => .ok []

/-- A jump target. -/
def Argument.target? : Argument → Option Operand
  | .literal l => some (.fixed (.numeral l))
  | .identifier name => some (.label name)
  | .register _ => none

/-- The form of an opcode with its operands. There is none if they do not have its shape. -/
def form? (op : Opcode) (operands : List Argument) : Option Form :=
  match op.instructionClass, operands with
  | .alu, [.register rd, .register rs, .register rt] => some (.alu op rd rs rt)
  | .flop, [.register rd, .register rs, .register rt] => some (.flop op rd rs rt)
  | .immSigned, [.register rd, .register rs, .literal l] =>
    some (.immSigned op rd rs (.numeral l))
  | .immUnsigned, [.register rd, .register rs, .literal l] =>
    some (.immUnsigned op rd rs (.numeral l))
  | .dataShuffle, [.register rd, .register rs] => some (.dataShuffle op rd rs)
  | .loadImm, [.register rd, .literal l] => some (.loadImm op rd (.numeral l))
  | .setImm, [.register rd, .literal l] => some (.setImm op rd (.numeral l))
  | .simple, [] => some (.simple op)
  | .branch, [.register rs, target] => target.target?.map (.branch op rs)
  | .jumpReg, [.register rs] => some (.jumpReg op rs)
  | .loadStore, [.register rd, .literal l, .register rbase] =>
    some (.loadStore op rd (.numeral l) rbase)
  | .jump, [target] => target.target?.map (.jump op)
  | .pseudo, [.register rd] => some (if op = .push then .push rd else .pop rd)
  | .pseudo, [.register rd, .literal l] => some (.loadWord rd (.numeral l))
  | .pseudo, [.register rd, .identifier name] => some (.loadAddress op rd (.label name))
  | _, _ => none

/-- A list that may be left out, and is empty then. A value that is no list is refused. -/
def listField (key : Text) (fields : List (Text × Json)) (refusal : Error) :
    Except Error (List Json) :=
  match Json.field? key fields with
  | none => .ok []
  | some (.array items) => .ok items
  | some _ => .error refusal

/-- The operand list of an instruction entry; an entry without one has no operands. -/
def operandList (entry : List (Text × Json)) (location : Location) :
    Except Error (List Json) :=
  listField "operands" entry (.shape location .operandsNotAList)

/-- The form of an instruction entry. -/
def readForm (entry : List (Text × Json)) (location : Location) : Except Error Form :=
  match Json.field? "mnemonic" entry with
  | some (.string mnemonic) =>
    match Opcode.ofMnemonic? mnemonic with
    | none => .error (.shape location (.mnemonic mnemonic))
    | some op =>
      match operandList entry location with
      | .error e => .error e
      | .ok values =>
        if values.length ≠ op.operands.length then
          .error (.shape location (.operandCount op values.length))
        else
          match readOperands op location op.operands values with
          | .error e => .error e
          | .ok operands =>
            match form? op operands with
            | some form => .ok form
            | none => .error (.shape location (.operandShape op))
  | _ => .error (.shape location .noMnemonic)

/-- An instruction entry: first its form is looked at, then its label. -/
def readInstruction (value : Json) (location : Location) : Except Error (Statement Instruction) :=
  match value with
  | .object entry =>
    match readForm entry location with
    | .error e => .error e
    | .ok form => (readLabel entry location).map fun label => ⟨.form form, label⟩
  | _ => .error (.shape location .instructionNotAnObject)

/-- Read the entries of a segment from an index on. -/
def readEntries {α : Type} (read : Json → Location → Except Error α) (segment : Segment) :
    Nat → List Json → Except Error (List α)
  | _, [] => .ok []
  | index, entry :: rest =>
    match read entry ⟨segment, index⟩ with
    | .error e => .error e
    | .ok statement =>
      match readEntries read segment (index + 1) rest with
      | .error e => .error e
      | .ok statements => .ok (statement :: statements)

/-- The entries of a segment; a segment that is left out has none. -/
def segmentList (fields : List (Text × Json)) (segment : Segment) : Except Error (List Json) :=
  listField segment.name fields (.shape none (.segmentNotAList segment))

/-- The fields of a document that name no segment, sorted. -/
def unknownKeys (fields : List (Text × Json)) : List Text :=
  ((fields.map Prod.fst).filter fun key : Text => key ≠ "data" ∧ key ≠ "instructions").mergeSort
    Text.precedes

end Document

open Document in
/-- The program that a document describes. -/
def Program.ofJson (document : Json) : Except Error Program :=
  match document with
  | .object fields =>
    if unknownKeys fields ≠ [] then .error (.shape none (.unknownKeys (unknownKeys fields)))
    else
      match segmentList fields .data, segmentList fields .instructions with
      | .error e, _ => .error e
      | .ok _, .error e => .error e
      | .ok data, .ok instructions =>
        match readEntries readData .data 0 data with
        | .error e => .error e
        | .ok data =>
          (readEntries readInstruction .instructions 0 instructions).map fun instructions =>
            ⟨data, instructions⟩
  | _ => .error (.shape none .notAnObject)

/-- The program that a file holds: UTF-8 text with any line ends, and in it one document. -/
def Program.ofFile (path : String) (bytes : List UInt8) : Except Error Program :=
  match Text.Utf8.decode bytes with
  | .error fault => .error (.fault (.undecodable fault))
  | .ok chars =>
    let text := Text.unifyLineEnds chars
    match Json.ofChars text with
    | .ok document => Program.ofJson document
    | .error (.numeralTooLong digits) => .error (.fault (.numeralTooLong digits))
    | .error (.malformed fault left) =>
      .error (.shape none (.invalidJson path (Json.faultPosition text left) fault))

end Assembler
