import Assembler.Error
import Assembler.Text.Distance

/-!
# Symbol tables

A table lists the labels of a program in the order of their definition, together with the places
where names are used. A frozen table takes no more definitions.
-/

namespace Assembler

/-- A label with its address and the statement that carries it. -/
structure Symbol where
  name : Text
  address : Int
  segment : Segment
  location : Location
  deriving DecidableEq, Repr

/-- The labels of a program and the uses of names. -/
structure SymbolTable where
  symbols : List Symbol := []
  references : List (Text × List (Option Location)) := []
  frozen : Bool := false
  deriving DecidableEq, Repr

namespace SymbolTable

/-- The symbol of a name. -/
def find? (t : SymbolTable) (name : Text) : Option Symbol :=
  t.symbols.find? fun s => s.name = name

/-- Whether a name is defined. -/
def contains (t : SymbolTable) (name : Text) : Bool := (t.find? name).isSome

/-- The names of the table with their addresses. -/
def addresses (t : SymbolTable) : List (Text × Int) :=
  t.symbols.map fun s => (s.name, s.address)

/-- Add a label at the end of the table. -/
def define (t : SymbolTable) (name : Text) (address : Int) (segment : Segment)
    (location : Location) : Except Error SymbolTable :=
  if t.frozen then .error (.located location (.frozen name))
  else
    match t.find? name with
    | some first => .error (.located location (.duplicate name (some first.location)))
    | none => .ok { t with symbols := t.symbols ++ [⟨name, address, segment, location⟩] }

/-- Two names are similar if they differ in case only, or if their lengths differ by at most one
and the edit distance of their lower-case forms is at most two. -/
def isSimilar (name other : Text) : Bool :=
  let small := Text.lower name
  let otherSmall := Text.lower other
  otherSmall == small ||
    (other.length ≤ name.length + 1 && name.length ≤ other.length + 1 &&
      Text.distance small otherSmall ≤ 2)

/-- The first three defined names that are similar to a name. -/
def similar (t : SymbolTable) (name : Text) : List Text :=
  ((t.symbols.map Symbol.name).filter (isSimilar name)).take 3

/-- The cause of a missing name. -/
def undefined (t : SymbolTable) (name : Text) : Cause := .undefined name (t.similar name)

/-- The symbol of a name that is used at a location. -/
def lookup (t : SymbolTable) (name : Text) (location : Option Location) : Except Error Symbol :=
  match t.find? name with
  | some symbol => .ok symbol
  | none => .error (.located location (t.undefined name))

/-- Add a use to the uses of its name, which keep the order of first use. -/
def addUse (name : Text) (location : Option Location) :
    List (Text × List (Option Location)) → List (Text × List (Option Location))
  | [] => [(name, [location])]
  | (other, uses) :: rest =>
    if other = name then (other, uses ++ [location]) :: rest
    else (other, uses) :: addUse name location rest

/-- Record that a name is used at a location. -/
def note (t : SymbolTable) (name : Text) (location : Option Location) : SymbolTable :=
  { t with references := addUse name location t.references }

/-- Take no more definitions. -/
def freeze (t : SymbolTable) : SymbolTable := { t with frozen := true }

/-- Tables are the same if they list the same symbols. -/
def sameSymbols (t u : SymbolTable) : Bool := t.symbols == u.symbols

/-- A table as it is shown. -/
def display (t : SymbolTable) : String :=
  let entries := t.addresses.map fun (name, address) =>
    Text.quoted name ++ ": " ++ Text.decimal address
  "SymbolTable(\x7b" ++ String.intercalate ", " entries ++ "\x7d)"

/-! ### Calls -/

/-- A use that a pass makes of a table. -/
inductive Call where
  | define (name : Text) (address : Int) (segment : Segment) (location : Location)
  | lookup (name : Text) (location : Option Location)
  | find (name : Text)
  | note (name : Text) (location : Option Location)
  | freeze
  deriving DecidableEq, Repr

/-- What a call returns. -/
inductive Reply where
  | symbol (s : Symbol)
  | found (s : Option Symbol)
  | done
  deriving DecidableEq, Repr

/-- Work on a table that may end in an error. What was done to the table before the error stays. -/
abbrev Access := ExceptT Error (StateM SymbolTable)

/-- Carry out a call on the table at hand. -/
def Call.perform : Call → Access Reply
  | .define name address segment location => do
    set (← (← get).define name address segment location)
    return .symbol ⟨name, address, segment, location⟩
  | .lookup name location => do
    return .symbol (← (← get).lookup name location)
  | .find name => do
    return .found ((← get).find? name)
  | .note name location => do
    modify fun t => t.note name location
    return .done
  | .freeze => do
    modify SymbolTable.freeze
    return .done

/-- What comes of a call, and the table after it. -/
def call (t : SymbolTable) (c : Call) : Except Error Reply × SymbolTable := c.perform.run.run t

end SymbolTable

end Assembler
