import Assembler.Literal

/-!
# Operands

An operand is a number, as it was written or already computed, or it stands for an address: a
literal one, a label that is still to be looked up, or the address that was found for a label.
-/

namespace Assembler

/-- What an instruction or a data element is given besides registers. -/
inductive Operand where
  /-- A number as it was written. -/
  | numeral (l : Literal)
  /-- A computed number. -/
  | number (n : Int)
  /-- A literal address. -/
  | fixed (value : Operand)
  /-- A label that is still to be looked up. -/
  | label (name : Text)
  /-- The address, or half of the address, of a label. -/
  | address (value : Int)
  deriving DecidableEq, Repr

namespace Operand

/-- The kinds of operands. -/
inductive Kind where
  | numeral
  | number
  | fixed
  | label
  | address
  deriving DecidableEq, Repr

/-- The name of a kind in a message. -/
def Kind.name : Kind → String
  | .numeral => "IntegerLiteral"
  | .number => "int"
  | .fixed => "Literal"
  | .label => "Unresolved"
  | .address => "Resolved"

/-- The kind of an operand. -/
def kind : Operand → Kind
  | .numeral _ => .numeral
  | .number _ => .number
  | .fixed _ => .fixed
  | .label _ => .label
  | .address _ => .address

/-- An operand in assembly text, unless it is a number with too many digits. -/
def text? : Operand → Option Text
  | .numeral l => l.spelling?
  | .number n => Text.decimal? n
  | .fixed value => value.text?
  | .label name => some name
  | .address value => some (Text.address value)

/-- The label that an operand names. -/
def label? : Operand → Option Text
  | .label name => some name
  | _ => none

/-- Whether an operand is a number. -/
def isNumber : Operand → Bool
  | .numeral _ | .number _ => true
  | _ => false

/-- Whether an operand is a value that needs no more work: a computed number or an address. -/
def isFinal : Operand → Bool
  | .number _ | .address _ => true
  | _ => false

end Operand

end Assembler
