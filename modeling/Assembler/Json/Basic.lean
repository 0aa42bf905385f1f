import Assembler.Decimal.Shortest
import Assembler.Text.Quoted

/-!
# JSON values

Integers and floating point numbers are kept apart, and the fields of an object stand in the order
in which they were first written.
-/

namespace Assembler

/-- A JSON value. -/
inductive Json where
  | null
  | bool (value : Bool)
  | int (value : Int)
  | float (value : Binary64)
  | string (value : Text)
  | array (items : List Json)
  | object (fields : List (Text × Json))
  deriving Repr

namespace Json

/-- Look a name up in the fields of an object. -/
def field? (name : Text) : List (Text × Json) → Option Json
  | [] => none
  | (key, value) :: rest => if key = name then some value else field? name rest

/-- Set a field: a name that is there keeps its place and takes the new value. -/
def setField (name : Text) (value : Json) : List (Text × Json) → List (Text × Json)
  | [] => [(name, value)]
  | (key, old) :: rest =>
    if key = name then (key, value) :: rest else (key, old) :: setField name value rest

mutual

/-- A value as it is shown in a message. -/
def display : Json → String
  | .null => "None"
  | .bool b => if b then "True" else "False"
  | .int n => Text.decimal n
  | .float x => x.text
  | .string s => Text.quoted s
  | .array items => "[" ++ String.intercalate ", " (displayItems items) ++ "]"
  | .object fields => "\x7b" ++ String.intercalate ", " (displayFields fields) ++ "\x7d"

/-- The items of an array as they are shown. -/
def displayItems : List Json → List String
  | [] => []
  | item :: rest => display item :: displayItems rest

/-- The fields of an object as they are shown. -/
def displayFields : List (Text × Json) → List String
  | [] => []
  | (name, value) :: rest => (Text.quoted name ++ ": " ++ display value) :: displayFields rest

end

mutual

/-- Whether the integers in a value are short enough to be shown. -/
def isWritable : Json → Bool
  | .int n => Text.isWritable n
  | .array items => itemsWritable items
  | .object fields => fieldsWritable fields
  | _ => true

/-- Whether the integers in the items of an array are short enough. -/
def itemsWritable : List Json → Bool
  | [] => true
  | item :: rest => isWritable item && itemsWritable rest

/-- Whether the integers in the fields of an object are short enough. -/
def fieldsWritable : List (Text × Json) → Bool
  | [] => true
  | (_, value) :: rest => isWritable value && fieldsWritable rest

end

end Json

end Assembler
