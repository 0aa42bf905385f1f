import Assembler.Text.Basic

/-!
# Edit distance

The least number of insertions, deletions and substitutions of single code points between two texts,
computed row by row. A row holds the distances from one beginning of the first text to
every beginning of the second.
-/

namespace Assembler.Text

/-- The rest of the next row. `diagonal` and `left` are the neighbours of the next entry, and
`above` holds the previous row from the entry over it on. -/
def nextEntries (c : CodePoint) (diagonal left : Nat) : Text → List Nat → List Nat
  | d :: others, upper :: above =>
    let entry := if c = d then diagonal else 1 + Nat.min (Nat.min diagonal upper) left
    entry :: nextEntries c upper entry others above
  | _, _ => []

/-- The row after `row` for the code point `c`, which stands at place `place` of the first text. -/
def nextRow (c : CodePoint) (place : Nat) (others : Text) : List Nat → List Nat
  | [] => []
  | diagonal :: above => place :: nextEntries c diagonal place others above

/-- The last row of the table, from the row before `place` on. -/
def lastRow (others : Text) (place : Nat) (row : List Nat) : Text → List Nat
  | [] => row
  | c :: rest => lastRow others (place + 1) (nextRow c (place + 1) others row) rest

/-- The last entry of the table whose rows have the length of the second text. -/
def tableDistance (a b : Text) : Nat :=
  (lastRow b 0 (List.range (b.length + 1)) a).getLastD 0

/-- The edit distance of two texts; the shorter one gives the rows. -/
def distance (a b : Text) : Nat :=
  if a.length < b.length then tableDistance b a else tableDistance a b

end Assembler.Text
