import Assembler.Text.Basic
import Assembler.Text.CaseTable

/-!
# Upper and lower case

`lower` is the full lower-case mapping. One capital becomes two characters, and a capital sigma
becomes the final form at the end of a word.

The names of registers and opcodes are ASCII, so of the upper-case mapping only the characters
with an ASCII image matter; `upperAscii?` gives that part of it.
-/

namespace Assembler.Text

/-- The small letters of one character, its neighbours left aside. -/
def lowerChar (c : Char) : List Char :=
  if c.toNat < 0x80 then [c.toLower]
  else if c.toNat == 0x130 then ['i', Char.ofNat 0x307]
  else
    match capitalRuns.find? fun run =>
        run.first ≤ c.toNat && c.toNat ≤ run.last && (c.toNat - run.first) % run.step == 0 with
    | some run => [Char.ofNat (c.toNat + run.shift).toNat]
    | none => [c]

/-- The first code point that is not passed over is a letter with case. -/
def meetsCased (t : Text) : Bool :=
  match t.dropWhile fun c => caseIgnorableRanges.contains c.toNat with
  | [] => false
  | c :: _ => casedRanges.contains c.toNat

/-- The small letters of `c` where `before`, nearest first, and `after` stand around it. A capital
sigma with a letter before it and none after it is final. -/
def lowerAt (before : Text) (c : CodePoint) (after : Text) : Text :=
  match c with
  | .char c =>
    if c.toNat == 0x3A3 then
      [.char (Char.ofNat (if meetsCased before && !meetsCased after then 0x3C2 else 0x3C3))]
    else ofChars (lowerChar c)
  | .surrogate index => [.surrogate index]

/-- The lower-case form of the text that follows `before`. -/
def lowerFrom (before : Text) : Text → Text
  | [] => []
  | c :: after => lowerAt before c after ++ lowerFrom (c :: before) after

/-- The lower-case form of a text. -/
def lower (t : Text) : Text := lowerFrom [] t

/-- The upper-case form of a character, if that is ASCII. -/
def upperAscii? (c : Char) : Option (List Char) :=
  if c.toNat < 0x80 then some [c.toUpper]
  else
    match c.toNat with
    | 0xDF => some ['S', 'S']
    | 0x131 => some ['I']
    | 0x17F => some ['S']
    | 0xFB00 => some ['F', 'F']
    | 0xFB01 => some ['F', 'I']
    | 0xFB02 => some ['F', 'L']
    | 0xFB03 => some ['F', 'F', 'I']
    | 0xFB04 => some ['F', 'F', 'L']
    | 0xFB05 => some ['S', 'T']
    | 0xFB06 => some ['S', 'T']
    | _ => none

/-- The upper-case form of a text, if that is ASCII. -/
def upperAsciiText? : Text → Option (List Char)
  | [] => some []
  | .char c :: rest =>
    match upperAscii? c, upperAsciiText? rest with
    | some head, some tail => some (head ++ tail)
    | _, _ => none
  | .surrogate _ :: _ => none

end Assembler.Text
