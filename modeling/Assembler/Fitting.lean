import Assembler.Element
import Assembler.Error

/-!
# Values and fields

Numbers are read, and values are put into fields, at a location that a complaint will name. The
width of a field is any integer here: one that is negative, or too small for a sign bit that is
needed, is refused, and so is one that memory cannot hold. How much memory there is depends on the
machine that the assembler runs on, so it is a parameter.
-/

namespace Assembler

/-! ### Widths -/

/-- The bits of memory on a machine about which nothing is said. -/
def usualMemory : Nat := 68719476736

/-- The most bits that a number may take up on any machine. -/
def maxIntegerBits : Nat := 69175290276410818320

/-- A number of places to shift by, on a machine with `memory` bits. -/
def shiftCount (count : Int) (memory : Nat := usualMemory) : Except Fault Nat :=
  if count < 0 then .error .negativeShift
  else if maxIntegerBits < count then .error .integerTooLarge
  else if memory < count then .error .outOfMemory
  else .ok count.toNat

/-- The width of a field. -/
def fieldWidth (width : Int) (memory : Nat := usualMemory) : Except Fault Nat :=
  shiftCount width memory

/-- The width of a field with a sign bit. -/
def signedWidth (width : Int) (memory : Nat := usualMemory) : Except Fault Nat :=
  (shiftCount (width - 1) memory).map (· + 1)

/-- The width of a field that has a sign bit if `signed` says so. -/
def widthFor (signed : Bool) (width : Int) (memory : Nat := usualMemory) : Except Error Nat :=
  (if signed then signedWidth width memory else fieldWidth width memory).mapError .fault

/-! ### Literals -/

/-- Read a literal for use at a location. -/
def parseLiteral (text : Text) (location : Option Location) : Except Error Literal :=
  (Literal.parse text).mapError (Error.ofRefusal text location)

/-- The value of a literal in a field. -/
def interpretLiteral (l : Literal) (width : Int) (signedness : Signedness)
    (location : Option Location) (memory : Nat := usualMemory) : Except Error Int :=
  match widthFor (l.needsSignBit signedness) width memory with
  | .error e => .error e
  | .ok width => (l.interpret width signedness).mapError (Error.overflow location)

/-- Check a computed value against a field. -/
def requireFitsAt (value width : Int) (signedness : Signedness) (location : Option Location)
    (name : Text := []) (memory : Nat := usualMemory) : Except Error Int :=
  match widthFor (signedness == .signed) width memory with
  | .error e => .error e
  | .ok width => (requireFits value width signedness name).mapError (Error.overflow location)

/-! ### Operands -/

/-- The value of an operand in a field. Only a number can be compared with the range. -/
def Operand.fit (o : Operand) (width : Int) (signedness : Signedness)
    (location : Option Location) : Except Error Int :=
  match o with
  | .numeral l => interpretLiteral l width signedness location
  | .number n => requireFitsAt n width signedness location
  | other =>
    match widthFor (signedness == .signed) width with
    | .error e => .error e
    | .ok _ => .error (.fault (.notComparable other.kind))

/-! ### Data -/

namespace Element

/-- The size of an element in bytes, on a machine with words of `bits` bits. -/
def size (element : Element) (bits : Int) (location : Option Location) : Except Error Int :=
  match element with
  | .block size => size.fit bits .unsigned location
  | .list kind values => .ok (kind.width * values.length)

/-- The pattern of one value of a list, which may be written signed or unsigned. A computed number
is taken as the literal that it is written as. -/
def valueIn (kind : ListKind) (location : Option Location) : Operand → Except Error Int
  | .numeral l => interpretLiteral l (8 * kind.width) .either location
  | .number n =>
    if Text.isWritable n then
      interpretLiteral (Literal.ofInt n) (8 * kind.width) .either location
    else .error (.fault .numberTooLong)
  | other => .error (.fault (.notAValue other.kind))

/-- The patterns of the values of a list, or the error of the first value that has one. -/
def valuesIn (kind : ListKind) (location : Option Location) :
    List Operand → Except Error (List Int)
  | [] => .ok []
  | operand :: rest =>
    match valueIn kind location operand with
    | .error e => .error e
    | .ok value =>
      match valuesIn kind location rest with
      | .error e => .error e
      | .ok values => .ok (value :: values)

/-- The patterns of the values of an element; a reserved area has none. -/
def values (element : Element) (location : Option Location) : Except Error (List Int) :=
  match element with
  | .block _ => .ok []
  | .list kind values => valuesIn kind location values

end Element

/-! ### Assembly text -/

/-- A text that may have come out too long. -/
def written : Option Text → Except Error Text
  | some text => .ok text
  | none => .error (.fault .numberTooLong)

/-- An element in assembly text. -/
def Element.text (element : Element) : Except Error Text := written element.text?

/-- A form in assembly text. -/
def Form.text (form : Form) : Except Error Text := written form.text?

/-- An instruction in assembly text, which starts with its opcode. -/
def Instruction.text : Instruction → Except Error Text
  | .form f => f.text
  | .foreign thing => .error (.fault (.noOpcode thing))

end Assembler
