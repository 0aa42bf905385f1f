import Assembler.Text.Numeral
import Assembler.Text.Printable

/-!
# Quoted text

A text between quotes, with escapes for what cannot be shown. Single quotes are used unless the
text holds a single quote and no double one.
-/

namespace Assembler.Text

/-- A code point by its number, in as few digits as its size asks for. -/
def numbered (c : CodePoint) : String :=
  if c.toNat < 0x100 then "\\x" ++ smallHex 2 c.toNat
  else if c.toNat < 0x10000 then "\\u" ++ smallHex 4 c.toNat
  else "\\U" ++ smallHex 8 c.toNat

/-- One code point inside quotes. -/
def escape (quote : Char) (c : CodePoint) : String :=
  match c with
  | .char char =>
    if char == quote || char == '\\' then String.ofList ['\\', char]
    else if char == '\n' then "\\n"
    else if char == '\r' then "\\r"
    else if char == '\t' then "\\t"
    else if isPrintable c then String.ofList [char]
    else numbered c
  | .surrogate _ => numbered c

/-- The quote that encloses a text. -/
def quoteFor (t : Text) : Char :=
  if t.contains (.char '\'') && !t.contains (.char '"') then '"' else '\''

/-- A text as it is shown in a message. -/
def quoted (t : Text) : String :=
  let quote := quoteFor t
  String.ofList (quote :: t.flatMap (fun c => (escape quote c).toList) ++ [quote])

/-- A text as a terminal shows it: halves of pairs are numbered. -/
def shown (t : Text) : String :=
  String.ofList (t.flatMap fun
    | .char c => [c]
    | .surrogate index => (numbered (.surrogate index)).toList)

end Assembler.Text
