import Assembler.Form
import Assembler.Json.Reader
import Assembler.Report
import Assembler.Text.Utf8

/-!
# Errors

An error is a diagnostic, which has a cause and often a location, or a fault: a condition outside
the language of diagnostics that shows as a bare text.
-/

namespace Assembler

/-- What is wrong with the shape of a document. -/
inductive ShapeFault where
  | notAnObject
  | unknownKeys (keys : List Text)
  | segmentNotAList (segment : Segment)
  | label
  | literalText (value : Json)
  | dataNotAnObject
  | blockSize
  | values (kind : String)
  | dataKind (kind : Json)
  | instructionNotAnObject
  | noMnemonic
  | mnemonic (text : Text)
  | operandsNotAList
  | operandCount (op : Opcode) (got : Nat)
  | operandShape (op : Opcode)
  | operandKind (op : Opcode) (expected : OperandKind) (got : Text)
  | register (value : Json)
  | identifier
  | invalidJson (path : String) (position : Text.Position) (fault : Json.SyntaxFault)
  deriving Repr

namespace ShapeFault

/-- The wording of a fault. -/
def message : ShapeFault → Text
  | .notAnObject => "parse tree must be a JSON object"
  | .unknownKeys keys => "unknown top-level key(s): " ++ List.intercalate (", " : Text) keys
  | .segmentNotAList segment => "'" ++ segment.name ++ "' must be a list"
  | .label => "label must be a non-empty string"
  | .literalText value => "expected literal text, got " ++ value.display
  | .dataNotAnObject => "data element must be an object"
  | .blockSize => "block is missing 'size'"
  | .values kind => kind ++ " list needs a non-empty 'values' list"
  | .dataKind kind => "unknown data kind " ++ kind.display
  | .instructionNotAnObject => "instruction must be an object"
  | .noMnemonic => "instruction is missing 'mnemonic'"
  | .mnemonic text => "unknown mnemonic '" ++ text ++ "'"
  | .operandsNotAList => "'operands' must be a list"
  | .operandCount op got =>
    op.name ++ " takes " ++ Text.decimalNat op.operands.length ++ " operand(s), got " ++
      Text.decimalNat got
  | .operandShape op =>
    "operand of " ++ op.name ++ " must be an object with one of register, literal, identifier"
  | .operandKind op expected got =>
    op.name ++ " expects a " ++ expected.expectation ++ " operand, got " ++ got
  | .register value => "unknown register " ++ value.display
  | .identifier => "identifier must be a non-empty string"
  | .invalidJson path position fault =>
    path ++ ": invalid JSON at line " ++ Text.decimalNat position.line ++ ", column " ++
      Text.decimalNat position.column ++ ": " ++ fault.message

/-- The hint of a fault. -/
def hint : ShapeFault → Option Text
  | .unknownKeys _ => some "expected 'data' and 'instructions'"
  | .dataKind _ => some "expected one of 'byte', 'short', 'word', 'block'"
  | .operandCount op _ =>
    match op.operands with
    | [] => some "expected: no operands"
    | kinds => some ("expected: " ++ String.intercalate ", " (kinds.map OperandKind.name))
  | _ => none

end ShapeFault

/-- What a diagnostic is about. -/
inductive Cause where
  | shape (fault : ShapeFault)
  | invalidLiteral (text : Text) (reason : Literal.Reason)
  | overflow (value : Overflow)
  | undefined (name : Text) (similar : List Text)
  | duplicate (name : Text) (first : Option Location)
  | unresolved (operand : Text)
  | frozen (name : Text)
  | misplaced (name : Text) (symbol element : Int)
  | pseudoLeft (op : Opcode)
  | nothingAssembled
  deriving Repr

/-- A cause at the statement that it concerns. -/
structure Diagnostic where
  cause : Cause
  location : Option Location := none
  deriving Repr

/-- What a diagnostic says. -/
def Diagnostic.report (d : Diagnostic) : Report :=
  match d.cause with
  | .shape fault => ⟨fault.message, d.location, fault.hint⟩
  | .invalidLiteral text reason => .invalidLiteral text reason.message d.location
  | .overflow o => .overflow (o.text.getD []) o.width o.signedness.name (some o.range) d.location
  | .undefined name similar => .undefined name none similar d.location
  | .duplicate name first => .duplicate name first d.location
  | .unresolved operand => .unresolved operand d.location
  | .frozen name =>
    ⟨"cannot define '" ++ name ++ "': symbol table is frozen", d.location,
      some Report.internalHint⟩
  | .misplaced name symbol element =>
    ⟨"symbol '" ++ name ++ "' is at 0x" ++ Text.hex symbol ++ " but its element is at 0x" ++
      Text.hex element, d.location, some Report.internalHint⟩
  | .pseudoLeft op =>
    ⟨"pseudo-instruction " ++ op.name ++ " reached the program image", d.location,
      some Report.internalHint⟩
  | .nothingAssembled => ⟨"no program has been assembled", d.location, none⟩

/-- Conditions that show as a bare text. -/
inductive Fault where
  /-- A field of negative width, or a signed one without bits. -/
  | negativeShift
  /-- A field that is too wide to be held in memory. -/
  | outOfMemory
  /-- A field that is too wide to be held in any memory. -/
  | integerTooLarge
  /-- A decimal numeral with more digits than are read. -/
  | numeralTooLong (digits : Nat)
  /-- A number with more decimal digits than are written. -/
  | numberTooLong
  /-- An operand that is no number was to be compared with the range of a field. -/
  | notComparable (kind : Operand.Kind)
  /-- An operand that is no number stands among the values of a data list. -/
  | notAValue (kind : Operand.Kind)
  /-- A data kind that is an object or a list. -/
  | compoundKind (isObject : Bool)
  /-- Something other than an instruction was to be expanded. -/
  | notAnInstruction (thing : Foreign)
  /-- The opcode of something other than an instruction was asked for. -/
  | noOpcode (thing : Foreign)
  /-- A literal jump target that was not checked before resolution. -/
  | uncheckedTarget (kind : Operand.Kind)
  /-- An operand that is still symbolic was to be written into an image file. -/
  | notStorable (kind : Operand.Kind)
  /-- A listing with a negative width of its address column. -/
  | negativeColumn
  /-- A listing whose address column is too wide. -/
  | columnTooWide
  /-- A file whose bytes are no UTF-8 text. -/
  | undecodable (fault : Text.Utf8.Fault)
  /-- A text with halves of UTF-16 pairs, which has no bytes. -/
  | unencodable (fault : Text.Utf8.Unwritable)
  /-- A file that does not exist. -/
  | missingFile (path : String)
  /-- A path that names no file. -/
  | emptyName (path : String)
  deriving Repr

/-- The wording of a reason why bytes are no text. -/
def utf8Reason : Text.Utf8.Reason → String
  | .startByte => "invalid start byte"
  | .continuationByte => "invalid continuation byte"
  | .endOfData => "unexpected end of data"

/-- The text of a fault in reading UTF-8. -/
def utf8Text (fault : Text.Utf8.Fault) : String :=
  let place :=
    if fault.count = 1 then
      "byte 0x" ++ Text.smallHex 2 fault.byte.toNat ++ " in position " ++
        Text.decimalNat fault.position
    else
      "bytes in position " ++ Text.decimalNat fault.position ++ "-" ++
        Text.decimalNat (fault.position + fault.count - 1)
  "'utf-8' codec can't decode " ++ place ++ ": " ++ utf8Reason fault.reason

/-- The text of a fault in writing UTF-8. -/
def unwritableText (fault : Text.Utf8.Unwritable) : String :=
  let place :=
    if fault.count = 1 then
      "character '" ++ Text.numbered (.surrogate fault.half) ++ "' in position " ++
        Text.decimalNat fault.position
    else
      "characters in position " ++ Text.decimalNat fault.position ++ "-" ++
        Text.decimalNat (fault.position + fault.count - 1)
  "'utf-8' codec can't encode " ++ place ++ ": surrogates not allowed"

/-- The text of a missing file. -/
def missingFileText (path : String) : String :=
  "[Errno 2] No such file or directory: " ++ Text.quoted path

/-- How to lift the limit on digits. -/
def digitAdvice : String := "; use sys.set_int_max_str_digits() to increase the limit"

/-- The limit on digits. -/
def digitLimitText : String := "Exceeds the limit (4300 digits) for integer string conversion"

/-- The text of a fault. -/
def Fault.text : Fault → String
  | .negativeShift => "negative shift count"
  | .outOfMemory => ""
  | .integerTooLarge => "too many digits in integer"
  | .numeralTooLong digits =>
    digitLimitText ++ ": value has " ++ Text.decimalNat digits ++ " digits" ++ digitAdvice
  | .numberTooLong => digitLimitText ++ digitAdvice
  | .notComparable kind =>
    "'<=' not supported between instances of 'int' and '" ++ kind.name ++ "'"
  | .notAValue kind => "bad operand type for abs(): '" ++ kind.name ++ "'"
  | .compoundKind isObject =>
    if isObject then "unhashable type: 'dict'" else "unhashable type: 'list'"
  | .notAnInstruction thing => "not an instruction form: " ++ thing.shown
  | .noOpcode thing => "'" ++ thing.kind ++ "' object has no attribute 'op'"
  | .uncheckedTarget kind =>
    "int() argument must be a string, a bytes-like object or a real number, not '" ++ kind.name ++
      "'"
  | .notStorable kind => "Object of type " ++ kind.name ++ " is not JSON serializable"
  | .negativeColumn => "Sign not allowed in string format specifier"
  | .columnTooWide => "Too many decimal digits in format string"
  | .undecodable fault => utf8Text fault
  | .unencodable fault => unwritableText fault
  | .missingFile path => missingFileText path
  | .emptyName path => "PosixPath(" ++ Text.quoted path ++ ") has an empty name"

/-- What an operation may end in. -/
inductive Error where
  | diagnostic (d : Diagnostic)
  | fault (f : Fault)
  deriving Repr

namespace Error

/-- The text of an error. -/
def text : Error → Text
  | .diagnostic d => d.report.text
  | .fault f => f.text

/-- An error about a cause at a location. -/
def located (location : Option Location) (cause : Cause) : Error := .diagnostic ⟨cause, location⟩

/-- A document of the wrong shape. -/
def shape (location : Option Location) (fault : ShapeFault) : Error :=
  located location (.shape fault)

/-- A document of the wrong shape, where the complaint shows a value. If an integer in the value has
too many digits to be written, that is the error. -/
def shapeOf (location : Option Location) (value : Json) (fault : ShapeFault) : Error :=
  if value.isWritable then shape location fault else .fault .numberTooLong

/-- A value that does not fit, at a location. If it or its range has too many digits to be written,
that is the error. -/
def overflow (location : Option Location) (value : Overflow) : Error :=
  if value.isWritable then located location (.overflow value) else .fault .numberTooLong

/-- A literal that cannot be read, at a location. -/
def ofRefusal (text : Text) (location : Option Location) : Literal.Refusal → Error
  | .malformed reason => located location (.invalidLiteral text reason)
  | .tooLong digits => .fault (.numeralTooLong digits)

end Error

end Assembler
