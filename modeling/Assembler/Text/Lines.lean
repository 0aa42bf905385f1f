/-!
# Lines

Line ends and positions in a text.
-/

namespace Assembler.Text

/-- Write every line end as a line feed. -/
def unifyLineEnds : List Char → List Char
  | '\r' :: '\n' :: rest => '\n' :: unifyLineEnds rest
  | '\r' :: rest => '\n' :: unifyLineEnds rest
  | c :: rest => c :: unifyLineEnds rest
  | [] => []

/-- A place in a text: line and column, both counted from one. -/
structure Position where
  line : Nat
  column : Nat
  deriving DecidableEq, Repr

/-- The place right after a text that starts at `start`. -/
def Position.after (start : Position) : List Char → Position
  | [] => start
  | c :: rest =>
    if c = '\n' then Position.after ⟨start.line + 1, 1⟩ rest
    else Position.after ⟨start.line, start.column + 1⟩ rest

end Assembler.Text
