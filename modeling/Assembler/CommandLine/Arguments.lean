import Assembler.Text.Quoted

/-!
# Arguments

Options may stand anywhere among the arguments, until a bare `--`. A long option takes its value
after an equals sign or from the next argument; a group of short options may end in one that takes
the rest of the group, or the next argument, as its value.
-/

namespace Assembler.CommandLine

/-- The options. -/
inductive OptionName where
  | output
  | listing
  | symbols
  | dataBase
  | instructionBase
  | wordSize
  | verbose
  | version
  | help
  deriving DecidableEq, Repr

namespace OptionName

/-- Whether an option takes a value. -/
def takesValue : OptionName → Bool
  | .verbose | .version | .help => false
  | _ => true

/-- Whether an option ends the run, whatever else is wrong with the values. -/
def isEager : OptionName → Bool
  | .version | .help => true
  | _ => false

/-- The spellings of an option in a message. -/
def spellings : OptionName → String
  | .output => "'-o' / '--output'"
  | .listing => "'-l' / '--listing'"
  | .symbols => "'-s' / '--symbols'"
  | .dataBase => "'--data-base'"
  | .instructionBase => "'--instruction-base'"
  | .wordSize => "'--word-size'"
  | .verbose => "'-v' / '--verbose'"
  | .version => "'--version'"
  | .help => "'--help'"

/-- The option of a long spelling. -/
def ofLong? (text : String) : Option OptionName :=
  match text with
  | "--output" => some .output
  | "--listing" => some .listing
  | "--symbols" => some .symbols
  | "--data-base" => some .dataBase
  | "--instruction-base" => some .instructionBase
  | "--word-size" => some .wordSize
  | "--verbose" => some .verbose
  | "--version" => some .version
  | "--help" => some .help
  | _ => none

/-- The option of a letter. -/
def ofLetter? : Char → Option OptionName
  | 'o' => some .output
  | 'l' => some .listing
  | 's' => some .symbols
  | 'v' => some .verbose
  | _ => none

end OptionName

/-- What is wrong with the use of the command. -/
inductive UsageFault where
  | noSuchOption (text : String)
  | needsValue (text : String)
  | takesNoValue (text : String)
  | missingInput
  | badValue (parameter : String) (message : Text)
  | extraArguments (arguments : List String)
  deriving DecidableEq, Repr

namespace UsageFault

/-- The wording of a fault. -/
def message : UsageFault → Text
  | .noSuchOption text => "No such option: " ++ text
  | .needsValue text => "Option " ++ Text.quoted text ++ " requires an argument."
  | .takesNoValue text => "Option " ++ Text.quoted text ++ " does not take a value."
  | .missingInput => "Missing argument 'INPUT_FILE'."
  | .badValue parameter message => "Invalid value for " ++ parameter ++ ": " ++ message
  | .extraArguments [argument] => "Got unexpected extra argument (" ++ argument ++ ")"
  | .extraArguments arguments =>
    "Got unexpected extra arguments (" ++ String.intercalate " " arguments ++ ")"

/-- Whether the usage of the command is shown with a fault. -/
def showsUsage : UsageFault → Bool
  | .needsValue _ | .takesNoValue _ => false
  | _ => true

end UsageFault

/-- An option on the command line, with its value if it takes one. -/
structure Occurrence where
  name : OptionName
  value : String := ""
  deriving DecidableEq, Repr

/-- What one argument says: options, and perhaps one that takes the next argument as its value. -/
structure Scan where
  given : List Occurrence
  pending : Option (OptionName × String) := none

/-- The options of a group of letters. -/
def scanLetters : List Char → Except UsageFault Scan
  | [] => .ok ⟨[], none⟩
  | letter :: rest =>
    let text := String.ofList ['-', letter]
    match OptionName.ofLetter? letter with
    | none => .error (.noSuchOption text)
    | some name =>
      if name.takesValue then
        if rest.isEmpty then .ok ⟨[], some (name, text)⟩
        else .ok ⟨[⟨name, String.ofList rest⟩], none⟩
      else
        match scanLetters rest with
        | .error fault => .error fault
        | .ok scan => .ok ⟨⟨name, ""⟩ :: scan.given, scan.pending⟩

/-- The part of an option before an equals sign, and the value after it. -/
def splitValue (option : List Char) : String × Option String :=
  let name := option.takeWhile (· ≠ '=')
  match option.drop name.length with
  | [] => (String.ofList name, none)
  | _ :: value => (String.ofList name, some (String.ofList value))

/-- The options of an argument that starts with a dash. -/
def scanOption (argument : List Char) : Except UsageFault Scan :=
  let (long, value) := splitValue argument
  match OptionName.ofLong? long with
  | some name =>
    if name.takesValue then
      match value with
      | some value => .ok ⟨[⟨name, value⟩], none⟩
      | none => .ok ⟨[], some (name, long)⟩
    else
      match value with
      | some _ => .error (.takesNoValue long)
      | none => .ok ⟨[⟨name, ""⟩], none⟩
  | none =>
    match argument with
    | '-' :: '-' :: _ => .error (.noSuchOption long)
    | _ => scanLetters (argument.drop 1)

/-- The options and the other arguments, both in order. -/
structure Parsed where
  given : List Occurrence
  arguments : List String
  deriving DecidableEq, Repr

/-- Whether an argument is an option. -/
def isOption (argument : String) : Bool :=
  match argument.toList with
  | '-' :: _ :: _ => true
  | _ => false

/-- Read the arguments. -/
def parse : List String → Except UsageFault Parsed
  | [] => .ok ⟨[], []⟩
  | argument :: rest =>
    if argument = "--" then .ok ⟨[], rest⟩
    else if isOption argument then
      match scanOption argument.toList with
      | .error fault => .error fault
      | .ok ⟨given, none⟩ =>
        match parse rest with
        | .error fault => .error fault
        | .ok parsed => .ok { parsed with given := given ++ parsed.given }
      | .ok ⟨given, some (name, text)⟩ =>
        match rest with
        | [] => .error (.needsValue text)
        | value :: rest =>
          match parse rest with
          | .error fault => .error fault
          | .ok parsed => .ok { parsed with given := given ++ ⟨name, value⟩ :: parsed.given }
    else
      match parse rest with
      | .error fault => .error fault
      | .ok parsed => .ok { parsed with arguments := argument :: parsed.arguments }

namespace Parsed

/-- The options in the order of their first use. -/
def names (p : Parsed) : List OptionName := (p.given.map Occurrence.name).eraseDups

/-- The value of an option: that of its last use. -/
def value? (p : Parsed) (name : OptionName) : Option String :=
  (p.given.reverse.find? fun o => o.name = name).map Occurrence.value

end Parsed

end Assembler.CommandLine
