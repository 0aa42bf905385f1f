import Assembler.Literal
import Assembler.Location

/-!
# Reports

The text of a diagnostic: where, what, and a hint on how to mend it.
-/

namespace Assembler

/-- What a diagnostic says. -/
structure Report where
  message : Text
  location : Option Location := none
  hint : Option Text := none
  deriving DecidableEq, Repr

namespace Report

/-- The text of a report. An empty hint is left out. -/
def text (r : Report) : Text :=
  let head : Text :=
    match r.location with
    | some location => location.text ++ ": error: " ++ r.message
    | none => "error: " ++ r.message
  match r.hint with
  | some hint => if hint = [] then head else head ++ "\nhint: " ++ hint
  | none => head

/-- The hint of conditions that no program should reach. -/
def internalHint : String := "this is an internal assembler error"

/-- A text that is no literal. -/
def invalidLiteral (text reason : Text) (location : Option Location) : Report :=
  ⟨"invalid literal '" ++ text ++ "': " ++ reason, location, none⟩

/-- A value that does not fit its field. -/
def overflow (text : Text) (width : Int) (signedness : String) (range : Option Range)
    (location : Option Location) : Report :=
  let hint : Option Text := range.map fun r => "valid range is " ++ Text.decimal r.low ++ ".." ++
    Text.decimal r.high
  ⟨"literal '" ++ text ++ "' does not fit in " ++ Text.decimal width ++ " bits (" ++ signedness ++
    ")", location, hint⟩

/-- A label that does not exist. Without another hint, the first three similar labels are
suggested. -/
def undefined (name : Text) (hint : Option Text) (similar : List Text)
    (location : Option Location) : Report :=
  let suggestion :=
    if hint.getD [] = [] ∧ similar ≠ [] then
      let names : List Text := (similar.take 3).map fun s => "'" ++ s ++ "'"
      some ("did you mean " ++ List.intercalate (", " : Text) names ++ "?")
    else hint
  ⟨"undefined symbol '" ++ name ++ "'", location, suggestion⟩

/-- A label that is defined twice. -/
def duplicate (name : Text) (first : Option Location) (location : Option Location) : Report :=
  ⟨"duplicate symbol '" ++ name ++ "'", location,
    first.map fun l => "'" ++ name ++ "' was first defined at " ++ l.text⟩

/-- An operand that is still symbolic in the end. -/
def unresolved (operand : Text) (location : Option Location) : Report :=
  ⟨"operand '" ++ operand ++ "' is still unresolved after resolution", location,
    some internalHint⟩

end Report

end Assembler
