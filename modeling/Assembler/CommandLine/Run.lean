import Assembler.CommandLine.Arguments
import Assembler.CommandLine.Failure
import Assembler.FileTree
import Assembler.Journal
import Assembler.Text.Terminal

/-!
# Runs of the command

A run takes arguments and a file tree, and gives an exit code, the texts for both output channels
and the tree with the files that were written. Nothing is written unless the assembly succeeds. The
files are written one after the other, and a text without bytes stops the writing at an empty file.
-/

namespace Assembler.CommandLine

/-- What a run leaves. -/
structure Outcome where
  exitCode : Nat
  stdout : String := ""
  stderr : String := ""
  files : FileTree

/-- The usage line. -/
def usage : String := "Usage: vasm [OPTIONS] INPUT_FILE\n"

/-- The help text. -/
def helpText : String :=
  usage ++
  "
  Assemble a vasm parse-tree document into a program image.

  INPUT_FILE is the JSON parse-tree document to assemble.

  The image lists every data element and every canonical instruction at its
  final address, with all labels resolved.

  Examples:
      vasm loop.json                  # Outputs loop.img.json
      vasm loop.json -o out.img.json  # Specify output file
      vasm loop.json -l loop.lst      # Also write a listing
      vasm --word-size 16 loop.json   # 16-bit machine

Options:
  -o, --output FILE           Output image file (default: input.img.json)
  -l, --listing FILE          Generate listing file
  -s, --symbols FILE          Generate symbol file
  --data-base ADDRESS         Address of the first data byte  [default: 0]
  --instruction-base ADDRESS  Address of the first instruction (default: right
                              after data)
  --word-size [16|32]         Machine word size in bits  [default: 32]
  -v, --verbose               Verbose output
  --version                   Show the version and exit.
  --help                      Show this message and exit.
"

/-- The version text. -/
def versionText : String := "vasm, version 1.0.0\n"

/-- A message on a line of its own, without terminal control sequences. -/
def echo (message : Text) : String := message.withoutControls.shown ++ "\n"

/-! ### Options -/

/-- What a run is asked to do. -/
structure Options where
  input : Path
  output : Option Path := none
  listing : Option Path := none
  symbols : Option Path := none
  dataBase : Int := 0
  instructionBase : Option Int := none
  wordBits : Int := 32
  verbose : Bool := false
  deriving DecidableEq, Repr

/-- Why a value is refused. A numeral beyond the limit of digits and a path with a null character
end the run without a message. -/
inductive ValueFault where
  | usage (fault : UsageFault)
  | abort

/-- Whether a text has a null character, which no path may have. -/
def hasNull (text : String) : Bool := text.toList.any fun c => c.toNat = 0

/-- An output file, which may not be a directory. -/
def outputPath (tree : FileTree) (name : OptionName) (text : String) : Except ValueFault Path :=
  if hasNull text then .error .abort else
  match tree.stat? text with
  | some .directory =>
    .error (.usage (.badValue name.spellings ("File " ++ Text.quoted text ++ " is a directory.")))
  | _ => .ok (.ofString text)

/-- An address. -/
def addressValue (name : OptionName) (text : String) : Except ValueFault Int :=
  let refuse (message : Text) : Except ValueFault Int :=
    .error (.usage (.badValue name.spellings
      (Text.quoted text ++ " is not a valid address: " ++ message)))
  match parseLiteral text none with
  | .error (.diagnostic d) => refuse d.report.message
  | .error (.fault _) => .error .abort
  | .ok l =>
    match interpretLiteral l 32 .unsigned none with
    | .ok value => .ok value
    | .error (.diagnostic d) => refuse d.report.message
    | .error (.fault _) => .error .abort

/-- A word size. -/
def wordSizeValue (text : String) : Except ValueFault Int :=
  if text = "16" then .ok 16
  else if text = "32" then .ok 32
  else
    .error (.usage (.badValue OptionName.wordSize.spellings
      (Text.quoted text ++ " is not one of '16', '32'.")))

/-- Set one option to its value. -/
def setOption (tree : FileTree) (name : OptionName) (value : String) (options : Options) :
    Except ValueFault Options :=
  match name with
  | .output => (outputPath tree name value).map fun p => { options with output := some p }
  | .listing => (outputPath tree name value).map fun p => { options with listing := some p }
  | .symbols => (outputPath tree name value).map fun p => { options with symbols := some p }
  | .dataBase => (addressValue name value).map fun n => { options with dataBase := n }
  | .instructionBase =>
    (addressValue name value).map fun n => { options with instructionBase := some n }
  | .wordSize => (wordSizeValue value).map fun n => { options with wordBits := n }
  | .verbose => .ok { options with verbose := true }
  | .version | .help => .ok options

/-- Set the options one after the other. -/
def setOptions (tree : FileTree) (parsed : Parsed) (options : Options) :
    List OptionName → Except ValueFault Options
  | [] => .ok options
  | name :: rest =>
    match setOption tree name ((parsed.value? name).getD "") options with
    | .error fault => .error fault
    | .ok options => setOptions tree parsed options rest

/-- The input file, which has to exist. -/
def inputPath (tree : FileTree) (text : String) : Except ValueFault Path :=
  let refuse (state : String) : Except ValueFault Path :=
    .error (.usage (.badValue "'INPUT_FILE'" ("File " ++ Text.quoted text ++ state)))
  if hasNull text then .error .abort else
  match tree.stat? text with
  | none => refuse " does not exist."
  | some .directory => refuse " is a directory."
  | some (.file _) => .ok (.ofString text)

/-- The options of a command line: first the values of the options are looked at, then the input
file, then whether there are more arguments. -/
def options (tree : FileTree) (parsed : Parsed) : Except ValueFault Options :=
  match setOptions tree parsed { input := ⟨"", []⟩ } parsed.names with
  | .error fault => .error fault
  | .ok found =>
    match parsed.arguments with
    | [] => .error (.usage .missingInput)
    | input :: rest =>
      match inputPath tree input with
      | .error fault => .error fault
      | .ok path =>
        if rest = [] then .ok { found with input := path }
        else .error (.usage (.extraArguments rest))

/-! ### Writing -/

/-- A file to write, and what it is called in messages. -/
structure Product where
  title : String
  path : Path
  text : Except Error Text

/-- The files of an image: the image itself, and a listing and a symbol file if they are wanted. -/
def products (options : Options) (output : Path) (image : Image) : List Product :=
  ⟨"image", output, image.fileText.map .ofString⟩ ::
    ((options.listing.map fun path => Product.mk "listing" path image.listing).toList ++
      (options.symbols.map fun path => .mk "symbols" path (.ok image.symbolListing)).toList)

/-- The files that were written, and the failure that stopped the writing. -/
structure Written where
  files : FileTree
  done : List Product
  failure : Option Failure := none

/-- The failure of an assembly. -/
def failureOf : Error → Failure
  | .diagnostic d => .assembly d.report.text
  | .fault (.missingFile path) => .file (missingFileText path)
  | .fault f => .internal f.text

/-- The failure of a file that cannot be written. -/
def writeFailure (path : Path) (fault : PathFault) : Failure :=
  if fault = .missing then .file (fault.text path) else .internal (fault.text path)

/-- Write files one after the other. A file is opened before its text is turned into bytes, so a
text that has none leaves an empty file. -/
def writeAll (tree : FileTree) : List Product → Written
  | [] => ⟨tree, [], none⟩
  | product :: rest =>
    match product.text with
    | .error e => ⟨tree, [], some (failureOf e)⟩
    | .ok text =>
      let encoded := Text.Utf8.encode text
      match tree.write product.path (encoded.toOption.getD []) with
      | .error fault => ⟨tree, [], some (writeFailure product.path fault)⟩
      | .ok tree =>
        match encoded with
        | .error fault => ⟨tree, [], some (failureOf (.fault (.unencodable fault)))⟩
        | .ok _ =>
          let after := writeAll tree rest
          { after with done := product :: after.done }

/-- The message about a file that was written. -/
def wrote (product : Product) : Text :=
  "Wrote " ++ product.title ++ " to " ++ product.path.text

/-- The closing lines of a verbose run. -/
def summary (image : Image) : List Text :=
  ("Assembly complete: " ++ Text.decimal image.dataSize ++ " data bytes at " ++
      Text.address image.dataBase ++ ", " ++ Journal.count image.instructions ++
      " instructions at " ++ Text.address image.instructionBase) ::
    ("Defined " ++ Journal.count image.symbols.symbols ++ " symbols") ::
    (if image.warnings = [] then [] else [Journal.count image.warnings ++ " warning(s)"])

/-! ### Runs -/

/-- The text of a failure on the error channel; `activity` names what failed. -/
def failureText (verbose : Bool) (activity : String) (failure : Failure) : String :=
  echo (failure.message activity) ++ failure.trace verbose

/-- What a run of the command does. -/
def activity : String := "Assembly"

/-- Messages that only a verbose run shows. -/
def spoken (verbose : Bool) (messages : List Text) : String :=
  if verbose then String.join (messages.map echo) else ""

/-- Assemble the input with a configuration and write the files. -/
def runWith (tree : FileTree) (options : Options) (output : Path) (config : Config) : Outcome :=
  let verbose := options.verbose
  let opening : Text := "Assembling " ++ options.input.text ++ "..."
  let name := options.input.text
  let loaded :=
    match tree.read? options.input with
    | some bytes => Program.ofFile name bytes
    | none => .error (.fault (.missingFile name))
  let journal := Journal.text verbose (Journal.ofFile name loaded config)
  let assembled := (Session.assembleLoaded ⟨config, none⟩ loaded).2
  match assembled with
  | .error e =>
    let failure := failureOf e
    { exitCode := failure.exitCode
      stdout := spoken verbose [opening]
      stderr := journal.shown ++ failureText verbose activity failure
      files := tree }
  | .ok image =>
    let written := writeAll tree (products options output image)
    let messages := written.done.map wrote
    let notes := Journal.text verbose (messages.map (⟨.info, ·⟩))
    match written.failure with
    | some failure =>
      { exitCode := failure.exitCode
        stdout := spoken verbose (opening :: messages)
        stderr := journal.shown ++ notes.shown ++ failureText verbose activity failure
        files := written.files }
    | none =>
      { exitCode := 0
        stdout := spoken verbose (opening :: messages ++ summary image)
        stderr := journal.shown ++ notes.shown
        files := written.files }

/-- Carry out what the options ask for. -/
def runOptions (tree : FileTree) (options : Options) : Outcome :=
  let output : Except Error Path :=
    match options.output with
    | some path => .ok path
    | none => options.input.defaultImage
  match output with
  | .error _ => { exitCode := 1, files := tree }
  | .ok output =>
    match Config.make options.dataBase options.instructionBase options.wordBits with
    | .error fault =>
      let failure := Failure.configuration fault.text
      { exitCode := failure.exitCode
        stderr := failureText options.verbose activity failure
        files := tree }
    | .ok config => runWith tree options output config

/-- The report of a wrong use of the command. -/
def usageOutcome (tree : FileTree) (fault : UsageFault) : Outcome :=
  let heading := if fault.showsUsage then usage ++ "Try 'vasm --help' for help.\n\n" else ""
  { exitCode := 2, stderr := heading ++ echo ("Error: " ++ fault.message), files := tree }

/-- The command. -/
def run (tree : FileTree) (arguments : List String) : Outcome :=
  match parse arguments with
  | .error fault => usageOutcome tree fault
  | .ok parsed =>
    match parsed.names.find? OptionName.isEager with
    | some .help => { exitCode := 0, stdout := helpText, files := tree }
    | some _ => { exitCode := 0, stdout := versionText, files := tree }
    | none =>
      match options tree parsed with
      | .error (.usage fault) => usageOutcome tree fault
      | .error .abort => { exitCode := 1, files := tree }
      | .ok options => runOptions tree options

/-- The paths that a command line speaks of, so that they can be looked at before the run. -/
def mentioned (arguments : List String) : List String :=
  match parse arguments with
  | .error _ => []
  | .ok parsed =>
    let named := [OptionName.output, .listing, .symbols].filterMap parsed.value?
    let derived :=
      parsed.arguments.head?.toList.filterMap fun input =>
        match (Path.ofString input).defaultImage with
        | .ok path => some path.text
        | .error _ => none
    parsed.arguments ++ named ++ derived

end Assembler.CommandLine
