import Assembler.Base
import Assembler.Json.Basic
import Assembler.Text.Lines

/-!
# Reading JSON

Beside the standard forms, `NaN`, `Infinity` and `-Infinity` are read as numbers. A numeral with a
fraction or an exponent is a floating point number, any other an integer of at most 4300 digits.
Of two fields of one name the later value counts, at the place of the earlier.

A fault tells what was expected and how many characters were left where it stands, so that its
place follows from the whole text.
-/

namespace Assembler.Json

/-- What a text is refused for. -/
inductive SyntaxFault where
  | value
  | name
  | colon
  | comma
  | openString
  | control
  | escape
  | unicodeEscape
  | extra
  | byteOrderMark
  deriving DecidableEq, Repr

/-- The wording of a refusal. -/
def SyntaxFault.message : SyntaxFault → String
  | .value => "Expecting value"
  | .name => "Expecting property name enclosed in double quotes"
  | .colon => "Expecting ':' delimiter"
  | .comma => "Expecting ',' delimiter"
  | .openString => "Unterminated string starting at"
  | .control => "Invalid control character at"
  | .escape => "Invalid \\escape"
  | .unicodeEscape => "Invalid \\uXXXX escape"
  | .extra => "Extra data"
  | .byteOrderMark => "Unexpected UTF-8 BOM (decode using utf-8-sig)"

/-- Why a text is no JSON value; `left` counts the characters from the faulty one to the end. -/
inductive ReadFault where
  | malformed (fault : SyntaxFault) (left : Nat)
  | numeralTooLong (digits : Nat)
  deriving DecidableEq, Repr

/-- White space between tokens. -/
def isSpace (c : Char) : Bool := c == ' ' || c == '\t' || c == '\n' || c == '\r'

/-- Skip white space. -/
def skipSpace (cs : List Char) : List Char := cs.dropWhile isSpace

/-- What follows a word, if the text starts with it. -/
def after? : List Char → List Char → Option (List Char)
  | [], cs => some cs
  | w :: word, c :: cs => if w = c then after? word cs else none
  | _ :: _, [] => none

/-! ### Strings -/

/-- The value of four hexadecimal digits. -/
def unit? (a b c d : Char) : Option Nat :=
  let digits := Text.ofChars [a, b, c, d]
  if digits.all fun digit => (Base.hex.digit? digit).isSome then some (Base.hex.valueOf digits)
  else none

/-- The character that a single letter stands for after a backslash. -/
def escaped? : Char → Option Char
  | '"' => some '"'
  | '\\' => some '\\'
  | '/' => some '/'
  | 'b' => some (Char.ofNat 0x08)
  | 'f' => some (Char.ofNat 0x0C)
  | 'n' => some '\n'
  | 'r' => some '\r'
  | 't' => some '\t'
  | _ => none

/-- The second half of a pair right after its first half. At least one character has to follow. -/
inductive Second where
  | none
  | malformed (left : Nat)
  | half (value : Nat) (rest : List Char)

/-- Look for the second half of a pair. -/
def second (cs : List Char) : Second :=
  match cs with
  | '\\' :: 'u' :: a :: b :: c :: d :: e :: rest =>
    match unit? a b c d with
    | Option.none => .malformed (cs.length - 1)
    | some n => if 0xDC00 ≤ n ∧ n < 0xE000 then .half n (e :: rest) else .none
  | _ => .none

/-- The text of a string up to its closing quote, and what follows it. `done` is the text so far,
last code point first, and `start` counts the characters from the opening quote on. An escaped half
of a pair stays as it is unless the other half comes right after it. -/
def stringBody (start fuel : Nat) (done : Text) (cs : List Char) :
    Except ReadFault (Text × List Char) :=
  match fuel with
  | 0 => .error (.malformed .openString start)
  | fuel + 1 =>
    match cs with
    | [] => .error (.malformed .openString start)
    | '"' :: rest => .ok (done.reverse, rest)
    | '\\' :: [] => .error (.malformed .openString start)
    | '\\' :: 'u' :: tail =>
      match tail with
      | a :: b :: c :: d :: e :: rest =>
        match unit? a b c d with
        | none => .error (.malformed .unicodeEscape (tail.length + 1))
        | some n =>
          if 0xD800 ≤ n ∧ n < 0xDC00 then
            match second (e :: rest) with
            | .none => stringBody start fuel (.ofUnit n :: done) (e :: rest)
            | .malformed left => .error (.malformed .unicodeEscape left)
            | .half low after =>
              let joined := 0x10000 + (n - 0xD800) * 0x400 + (low - 0xDC00)
              stringBody start fuel (.char (Char.ofNat joined) :: done) after
          else stringBody start fuel (.ofUnit n :: done) (e :: rest)
      | _ => .error (.malformed .unicodeEscape (tail.length + 1))
    | '\\' :: letter :: rest =>
      match escaped? letter with
      | some c => stringBody start fuel (.char c :: done) rest
      | none => .error (.malformed .escape (rest.length + 2))
    | c :: rest =>
      if c.toNat < 0x20 then .error (.malformed .control (rest.length + 1))
      else stringBody start fuel (.char c :: done) rest

/-- A string whose opening quote stands before `cs`. -/
def readString (cs : List Char) : Except ReadFault (Text × List Char) :=
  stringBody (cs.length + 1) (cs.length + 1) [] cs

/-! ### Numbers -/

/-- The decimal digits at the start of a text, and the rest. -/
def spanDigits (cs : List Char) : List Char × List Char :=
  (cs.takeWhile Char.isDigit, cs.dropWhile Char.isDigit)

/-- The value of decimal digits. -/
def digitsValue (digits : List Char) : Nat := Base.dec.valueOf (.ofChars digits)

/-- The digits before the point: a zero, or digits that start with another one. -/
def wholePart? : List Char → Option (List Char × List Char)
  | '0' :: rest => some (['0'], rest)
  | c :: rest => if c.isDigit then some (spanDigits (c :: rest)) else none
  | [] => none

/-- A point with at least one digit after it. -/
def fraction : List Char → List Char × List Char
  | '.' :: rest =>
    match spanDigits rest with
    | ([], _) => ([], '.' :: rest)
    | (digits, after) => (digits, after)
  | cs => ([], cs)

/-- An exponent mark with at least one digit after it. -/
def exponent? (cs : List Char) : Option (Int × List Char) :=
  match cs with
  | mark :: rest =>
    if mark = 'e' ∨ mark = 'E' then
      let (negative, digits) :=
        match rest with
        | '-' :: digits => (true, digits)
        | '+' :: digits => (false, digits)
        | digits => (false, digits)
      match spanDigits digits with
      | ([], _) => none
      | (digits, after) =>
        let value : Int := digitsValue digits
        some (if negative then -value else value, after)
    else none
  | [] => none

/-- The number at the start of a text. -/
def readNumber (cs : List Char) : Except ReadFault (Json × List Char) :=
  let (negative, unsigned) :=
    match cs with
    | '-' :: rest => (true, rest)
    | rest => (false, rest)
  match wholePart? unsigned with
  | none => .error (.malformed .value cs.length)
  | some (whole, rest) =>
    let (decimals, rest) := fraction rest
    match exponent? rest with
    | some (exponent, rest) =>
      let digits := digitsValue (whole ++ decimals)
      .ok (.float (.ofDecimal negative digits (exponent - decimals.length)), rest)
    | none =>
      if decimals.isEmpty then
        if Text.maxDigits < whole.length then .error (.numeralTooLong whole.length)
        else
          let value : Int := digitsValue whole
          .ok (.int (if negative then -value else value), rest)
      else
        .ok (.float (.ofDecimal negative (digitsValue (whole ++ decimals)) (-decimals.length)), rest)

/-- A word that stands for a value, or else a number. -/
def readAtom (cs : List Char) : Except ReadFault (Json × List Char) :=
  let words : List (String × Json) :=
    [("null", .null), ("true", .bool true), ("false", .bool false),
      ("NaN", .float .notANumber), ("Infinity", .float (.infinite false)),
      ("-Infinity", .float (.infinite true))]
  match words.findSome? fun (word, value) => (after? word.toList cs).map (value, ·) with
  | some found => .ok found
  | none => readNumber cs

/-! ### Values -/

mutual

/-- The value at the start of a text. The fuel bounds the number of steps. -/
def readValue (fuel : Nat) (cs : List Char) : Except ReadFault (Json × List Char) :=
  match fuel with
  | 0 => .error (.malformed .value cs.length)
  | fuel + 1 =>
    match cs with
    | '"' :: rest =>
      match readString rest with
      | .ok (s, rest) => .ok (.string s, rest)
      | .error fault => .error fault
    | '\x7b' :: rest =>
      match skipSpace rest with
      | '\x7d' :: rest => .ok (.object [], rest)
      | rest => readFields fuel [] rest
    | '[' :: rest =>
      match skipSpace rest with
      | ']' :: rest => .ok (.array [], rest)
      | rest => readItems fuel [] rest
    | cs => readAtom cs

/-- The items of an array up to its closing bracket. -/
def readItems (fuel : Nat) (done : List Json) (cs : List Char) :
    Except ReadFault (Json × List Char) :=
  match fuel with
  | 0 => .error (.malformed .value cs.length)
  | fuel + 1 =>
    match readValue fuel cs with
    | .error fault => .error fault
    | .ok (item, rest) =>
      match skipSpace rest with
      | ']' :: rest => .ok (.array (item :: done).reverse, rest)
      | ',' :: rest => readItems fuel (item :: done) (skipSpace rest)
      | rest => .error (.malformed .comma rest.length)

/-- The fields of an object up to its closing brace. -/
def readFields (fuel : Nat) (done : List (Text × Json)) (cs : List Char) :
    Except ReadFault (Json × List Char) :=
  match fuel with
  | 0 => .error (.malformed .value cs.length)
  | fuel + 1 =>
    match cs with
    | '"' :: rest =>
      match readString rest with
      | .error fault => .error fault
      | .ok (name, rest) =>
        match skipSpace rest with
        | ':' :: rest =>
          match readValue fuel (skipSpace rest) with
          | .error fault => .error fault
          | .ok (value, rest) =>
            let done := setField name value done
            match skipSpace rest with
            | '\x7d' :: rest => .ok (.object done, rest)
            | ',' :: rest => readFields fuel done (skipSpace rest)
            | rest => .error (.malformed .comma rest.length)
        | rest => .error (.malformed .colon rest.length)
    | cs => .error (.malformed .name cs.length)

end

/-- The one value that a text holds. -/
def ofChars (cs : List Char) : Except ReadFault Json :=
  if cs.head? = some (Char.ofNat 0xFEFF) then .error (.malformed .byteOrderMark cs.length)
  else
    match readValue (2 * cs.length + 2) (skipSpace cs) with
    | .error fault => .error fault
    | .ok (value, rest) =>
      match skipSpace rest with
      | [] => .ok value
      | rest => .error (.malformed .extra rest.length)

/-- Where a fault stands in the text `cs` that it was found in. -/
def faultPosition (cs : List Char) (left : Nat) : Text.Position :=
  Text.Position.after ⟨1, 1⟩ (cs.take (cs.length - left))

end Assembler.Json
