import Assembler.Error

/-!
# Paths

A path in normal form: empty components and single dots vanish, and a leading pair of slashes is
kept apart from a single one. Double dots stay.
-/

namespace Assembler

/-- Split a text at every occurrence of a character. -/
def Text.splitAt (separator : Char) : List Char → List (List Char)
  | [] => [[]]
  | c :: rest =>
    if c = separator then [] :: Text.splitAt separator rest
    else
      match Text.splitAt separator rest with
      | [] => [[c]]
      | word :: words => (c :: word) :: words

/-- A path: the slashes that it starts with, and its components. -/
structure Path where
  root : String
  parts : List String
  deriving DecidableEq, Repr

namespace Path

/-- The slashes at the start of a path: two stay two, any other number is one. -/
def rootOf : List Char → String
  | '/' :: '/' :: '/' :: _ => "/"
  | '/' :: '/' :: _ => "//"
  | '/' :: _ => "/"
  | _ => ""

/-- The components of a path text, as they stand between slashes. -/
def components (text : String) : List String :=
  (Text.splitAt '/' text.toList).map String.ofList

/-- The path of a text. -/
def ofString (text : String) : Path :=
  ⟨rootOf text.toList, (components text).filter fun c => c ≠ "" ∧ c ≠ "."⟩

/-- The text of a path; the empty path is a dot. -/
def text (p : Path) : String :=
  if p.root = "" ∧ p.parts = [] then "." else p.root ++ String.intercalate "/" p.parts

/-- The part of a name before its last dot, unless that dot is the first or the last character. -/
def stem (name : List Char) : List Char :=
  let after := name.reverse.takeWhile (· ≠ '.')
  let before := (name.reverse.drop (after.length + 1)).reverse
  if after.length < name.length ∧ after ≠ [] ∧ before ≠ [] then before else name

/-- The path with the ending of its last component replaced. A path without components has no
name to change. -/
def withEnding (p : Path) (ending : String) : Except Error Path :=
  match p.parts.getLast? with
  | some name =>
    .ok { p with parts := p.parts.dropLast ++ [String.ofList (stem name.toList) ++ ending] }
  | none => .error (.fault (.emptyName p.text))

/-- The image file that belongs to an input file. -/
def defaultImage (p : Path) : Except Error Path := p.withEnding ".img.json"

end Path

end Assembler
