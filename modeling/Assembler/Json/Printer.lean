import Assembler.Json.Basic

/-!
# Writing JSON

`Json.pretty` puts every item and field on a line of its own, two spaces deeper than its
container. The text is ASCII: every other character is written as its UTF-16 units.
-/

namespace Assembler.Json

/-- A `\u` escape of one UTF-16 unit. -/
def unitEscape (n : Nat) : String := "\\u" ++ Text.smallHex 4 n

/-- One character of a string. -/
def escapeChar (c : Char) : String :=
  if c == '"' then "\\\""
  else if c == '\\' then "\\\\"
  else if c == '\n' then "\\n"
  else if c == '\r' then "\\r"
  else if c == '\t' then "\\t"
  else if c.toNat == 0x08 then "\\b"
  else if c.toNat == 0x0C then "\\f"
  else if 0x20 ≤ c.toNat && c.toNat < 0x7F then String.ofList [c]
  else if c.toNat < 0x10000 then unitEscape c.toNat
  else
    let rest := c.toNat - 0x10000
    unitEscape (0xD800 + rest / 0x400) ++ unitEscape (0xDC00 + rest % 0x400)

/-- One code point of a string. -/
def escape : CodePoint → String
  | .char c => escapeChar c
  | .surrogate index => unitEscape (0xD800 + index)

/-- A string between double quotes. -/
def quote (t : Text) : String :=
  "\"" ++ String.ofList (t.flatMap fun c => (escape c).toList) ++ "\""

/-- The text of a floating point number. -/
def floatText : Binary64 → String
  | .notANumber => "NaN"
  | .infinite negative => if negative then "-Infinity" else "Infinity"
  | x => x.text

/-- A line break followed by the indentation of a nesting depth. -/
def newline (depth : Nat) : String := "\n" ++ Text.fill (2 * depth) ' '

mutual

/-- A value whose container stands at nesting depth `depth`. -/
def prettyAt (depth : Nat) : Json → String
  | .null => "null"
  | .bool b => if b then "true" else "false"
  | .int n => Text.decimal n
  | .float x => floatText x
  | .string s => quote s
  | .array [] => "[]"
  | .array (item :: rest) =>
    "[" ++ newline (depth + 1) ++
      String.intercalate ("," ++ newline (depth + 1)) (prettyItems (depth + 1) (item :: rest)) ++
      newline depth ++ "]"
  | .object [] => "\x7b\x7d"
  | .object (field :: rest) =>
    "\x7b" ++ newline (depth + 1) ++
      String.intercalate ("," ++ newline (depth + 1)) (prettyFields (depth + 1) (field :: rest)) ++
      newline depth ++ "\x7d"

/-- The items of an array. -/
def prettyItems (depth : Nat) : List Json → List String
  | [] => []
  | item :: rest => prettyAt depth item :: prettyItems depth rest

/-- The fields of an object. -/
def prettyFields (depth : Nat) : List (Text × Json) → List String
  | [] => []
  | (name, value) :: rest =>
    (quote name ++ ": " ++ prettyAt depth value) :: prettyFields depth rest

end

/-- A value on as many lines as it needs. -/
def pretty (value : Json) : String := prettyAt 0 value

end Assembler.Json
