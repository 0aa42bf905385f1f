import Assembler.CommandLine.Run
import Assembler.Proofs.Acceptance
import Assembler.Proofs.Faults
import Assembler.Proofs.FileTree
import Assembler.Proofs.ImageFile
import Assembler.Proofs.Sessions

/-!
# Outcomes of a run

A command line that asks for an assembly names an input that is there, so the run ends in one of
four ways: the configuration is refused, a diagnostic or a fault comes up while the input is read
and assembled, or there is an image. Only in the last case are files written. The image file then
holds the document of the image, which can be read back. But a label may have half of a UTF-16 pair
in it, and such a label has no bytes: a run that has to write it into a listing or a symbol file
stops there, and leaves the image file and an empty file behind. The input is not among the files
that are written unless it is named as one.
-/

namespace Assembler

/-! ## The assembly of a file -/

theorem Error.Reported.ofReading {e : Error} (reported : e.Reported) : e.OfReading := by
  obtain ⟨location, cause, rfl, -⟩ := reported
  trivial

/-- A fault of reading is not taken for a missing file. -/
theorem Error.OfReading.exitCode {f : Fault} (ofReading : (Error.fault f).OfReading) :
    (CommandLine.failureOf (.fault f)).exitCode = 3 := by
  cases f with
  | missingFile path => exact ofReading.elim
  | _ => rfl

namespace Session.Call

variable {path : String} {bytes : List UInt8} {config : Config}

theorem snd_assembleLoaded :
    (assembleLoaded ⟨config, none⟩ (Program.ofFile path bytes)).2 =
      (Call.file path (some bytes)).outcome config :=
  congrArg Prod.snd (call_eq ⟨config, none⟩ (.file path (some bytes)))

/-- What goes wrong with a file that is there. -/
theorem outcome_reads : Outcome.Reads ((Call.file path (some bytes)).outcome config) := by
  intro e failed
  unfold outcome loaded at failed
  cases read : Program.ofFile path bytes with
  | error fault =>
    simp only [read, Except.error.injEq] at failed
    subst failed
    exact Program.ofFile_reads path bytes fault read
  | ok program =>
    simp only [read] at failed
    exact ((Program.ofFile_wasRead read).reported failed).ofReading

/-- An image that comes from a file has its texts: the document, which can be read back, and a
listing, which has bytes exactly if the labels have. -/
theorem outcome_texts {image : Image}
    (ended : (Call.file path (some bytes)).outcome config = .ok image) :
    ∃ document listing, image.toJson = .ok document ∧ image.listing = .ok listing ∧
      image.fileText = .ok (document.pretty ++ "\n") ∧
      Json.ofChars (document.pretty ++ "\n").toList = .ok document ∧
      (listing.Whole ↔ ∀ name ∈ image.symbols.names, name.Whole) := by
  unfold outcome loaded at ended
  cases read : Program.ofFile path bytes with
  | error fault => simp [read] at ended
  | ok program =>
    simp only [read] at ended
    obtain ⟨layout, blocks, assembled⟩ := assemble_eq_ok_iff.mp ended
    have wasRead := Program.ofFile_wasRead read
    obtain ⟨document, toJson, fileText⟩ := assembled.exists_fileText wasRead
    obtain ⟨listing, listed⟩ := assembled.exists_listing wasRead
    have storable := assembled.document_storable wasRead (Program.ofFile_joined read) toJson
    exact ⟨document, listing, toJson, listed, fileText, storable.ofChars_pretty,
      assembled.whole_listing wasRead listed⟩

end Session.Call

namespace CommandLine

variable {tree after : FileTree} {arguments : List String} {options : Options} {output : Path}
  {bytes : List UInt8} {config : Config} {image : Image}

/-! ## What is asked for -/

/-- A command line that asks for an assembly with some options. -/
def Asks (tree : FileTree) (arguments : List String) (options : Options) : Prop :=
  ∃ parsed, parse arguments = .ok parsed ∧ parsed.names.find? OptionName.isEager = none ∧
    CommandLine.options tree parsed = .ok options

theorem inputPath_eq_ok_iff {text : String} {path : Path} :
    inputPath tree text = .ok path ↔
      hasNull text = false ∧ path = .ofString text ∧
        ∃ bytes, tree.stat? text = some (.file bytes) := by
  unfold inputPath
  dsimp only
  split
  · simp [*]
  · rename_i null
    simp only [Bool.not_eq_true] at null
    split
    · simp [*]
    · simp [*]
    · simp [*, eq_comm]

namespace Asks

theorem run_eq (asks : Asks tree arguments options) :
    run tree arguments = runOptions tree options := by
  obtain ⟨parsed, read, lazy, found⟩ := asks
  simp only [run, read, lazy, found]

/-- The input is there. -/
theorem exists_input (asks : Asks tree arguments options) :
    ∃ bytes, tree.read? options.input = some bytes := by
  obtain ⟨parsed, -, -, found⟩ := asks
  unfold CommandLine.options at found
  split at found
  · cases found
  · split at found
    · cases found
    · split at found
      · cases found
      · rename_i named
        obtain ⟨-, rfl, bytes, stands⟩ := inputPath_eq_ok_iff.mp named
        split at found
        · cases found
          exact ⟨bytes, FileTree.read?_of_stat? stands⟩
        · cases found

end Asks

namespace Options

/-- The file for the image. -/
def imagePath (options : Options) : Except Error Path :=
  match options.output with
  | some path => .ok path
  | none => options.input.defaultImage

/-- The files that are wanted beside the image. -/
def extras (options : Options) : List Path := options.listing.toList ++ options.symbols.toList

/-- The files of a run with their contents: the image, and a listing and a symbol file if they are
wanted. -/
def files {α : Type} (options : Options) (output : Path) (image listing symbols : α) :
    List (Path × α) :=
  (output, image) ::
    ((options.listing.map fun path => (path, listing)).toList ++
      (options.symbols.map fun path => (path, symbols)).toList)

/-- The second file of a run. -/
theorem files_of_extras {α : Type} {path : Path} {others : List Path}
    (wanted : options.extras = path :: others) (output : Path) (image listing symbols : α) :
    ∃ text rest, options.files output image listing symbols =
        (output, image) :: (path, text) :: rest ∧ (text = listing ∨ text = symbols) := by
  obtain ⟨input, image, listingPath, symbolsPath⟩ := options
  cases listingPath with
  | some path =>
    cases wanted
    exact ⟨listing, _, rfl, .inl rfl⟩
  | none =>
    cases symbolsPath with
    | some path =>
      cases wanted
      exact ⟨symbols, _, rfl, .inr rfl⟩
    | none => cases wanted

/-- The texts of the files have no half of a pair if the labels have none. -/
theorem files_whole (output : Path) {labels : Prop} {image listing symbols : Text}
    (suits : options.extras = [] ∨ labels) (ofImage : image.Whole)
    (ofListing : labels → listing.Whole) (ofSymbols : labels → symbols.Whole) :
    ∀ file ∈ options.files output image listing symbols, file.2.Whole := by
  obtain ⟨input, imagePath, listingPath, symbolsPath⟩ := options
  rcases suits with alone | whole
  · cases listingPath <;> cases symbolsPath <;> simp_all [extras, files]
  · cases listingPath <;> cases symbolsPath <;> simp_all [files]

theorem map_path_products (image : Image) :
    (products options output image).map Product.path = output :: options.extras := by
  unfold products extras
  cases options.listing <;> cases options.symbols <;> rfl

theorem exists_imagePath (found : tree.read? options.input = some bytes) :
    ∃ output, options.imagePath = .ok output := by
  unfold imagePath
  cases options.output with
  | some path => exact ⟨path, rfl⟩
  | none => exact Path.exists_defaultImage found

end Options

/-! ## Writing -/

/-- A file with its text is what is wanted for a product. -/
def Product.Wants (product : Product) (file : Path × Text) : Prop :=
  product.path = file.1 ∧ product.text = .ok file.2

theorem products_want (options : Options) (output : Path) {document : String} {listing : Text}
    (stored : image.fileText = .ok document) (listed : image.listing = .ok listing) :
    List.Forall₂ Product.Wants (products options output image)
      (options.files output (Text.ofString document) listing image.symbolListing) := by
  unfold products Options.files
  refine .cons ⟨rfl, by rw [stored]; rfl⟩ (List.rel_append ?_ ?_)
  · cases options.listing with
    | none => exact .nil
    | some path => exact .cons ⟨rfl, listed⟩ .nil
  · cases options.symbols with
    | none => exact .nil
    | some path => exact .cons ⟨rfl, rfl⟩ .nil

theorem Product.map_fst_of_wants {products : List Product} {files : List (Path × Text)}
    (want : List.Forall₂ Wants products files) :
    files.map Prod.fst = products.map Product.path := by
  induction want with
  | nil => rfl
  | cons first _ ih => rw [List.map_cons, List.map_cons, ih, first.1]

/-- Strings as the texts of files. -/
def texts (files : List (Path × String)) : List (Path × Text) :=
  files.map (Prod.map id Text.ofString)

theorem exists_texts {files : List (Path × Text)} (whole : ∀ file ∈ files, file.2.Whole) :
    ∃ strings, files = texts strings := by
  induction files with
  | nil => exact ⟨[], rfl⟩
  | cons file rest ih =>
    obtain ⟨path, text⟩ := file
    obtain ⟨⟨s, same⟩, others⟩ := List.forall_mem_cons.mp whole
    obtain ⟨strings, rfl⟩ := ih others
    exact ⟨(path, s) :: strings, congrArg (fun text => (path, text) :: texts strings) same⟩

theorem texts_injective : Function.Injective texts :=
  List.map_injective_iff.mpr (Function.injective_id.prodMap Text.ofString_injective)

/-- The text of a string is written, and the writing goes on. -/
theorem writeAll_cons {product : Product} {s : String} (text : product.text = .ok (Text.ofString s))
    {place : Place} (takes : tree.Takes product.path place) (rest : List Product) :
    writeAll tree (product :: rest) =
      let later := writeAll (tree.put place s.toUTF8.data.toList) rest
      { later with done := product :: later.done } := by
  simp only [writeAll, text, Text.Utf8.encode_ofString, Except.toOption, Option.getD_some,
    takes.write]

/-- A text with half of a pair leaves an empty file, and the writing stops. -/
theorem writeAll_cons_of_not_whole {product : Product} {text : Text}
    (wants : product.text = .ok text) (halves : ¬ text.Whole) {place : Place}
    (takes : tree.Takes product.path place) (rest : List Product) :
    ∃ fault, writeAll tree (product :: rest) =
      ⟨tree.put place [], [], some (failureOf (.fault (.unencodable fault)))⟩ := by
  obtain ⟨fault, encoded⟩ := Text.Utf8.exists_encode_eq_error halves
  refine ⟨fault, ?_⟩
  simp only [writeAll, wants, encoded, Except.toOption, Option.getD_none, takes.write]

/-- Products whose texts are strings are written as their files are. -/
theorem writeAll_append {products : List Product} {files : List (Path × String)}
    (want : List.Forall₂ Product.Wants products (texts files))
    (written : tree.writeFiles files = .ok after) (rest : List Product) :
    writeAll tree (products ++ rest) =
      { writeAll after rest with done := products ++ (writeAll after rest).done } := by
  induction files generalizing tree products with
  | nil =>
    cases written
    cases want
    rfl
  | cons file files ih =>
    obtain ⟨place, takes, others⟩ := FileTree.writeFiles_cons_eq_ok_iff.mp written
    cases want with
    | @cons product _ products _ first later =>
      obtain ⟨path, text⟩ := first
      rw [List.cons_append, writeAll_cons text (path ▸ takes), ih later others]
      rfl

/-- Files that are not written stay, whatever stops the writing. -/
theorem writeAll_read? {products : List Product} {path : Path}
    (apart : ∀ product ∈ products, tree.Apart product.path path) :
    (writeAll tree products).files.read? path = tree.read? path := by
  induction products generalizing tree with
  | nil => rfl
  | cons product rest ih =>
    obtain ⟨own, later⟩ := List.forall_mem_cons.mp apart
    unfold writeAll
    split
    · rfl
    · dsimp only
      split
      · rfl
      · rename_i next written
        obtain ⟨place, takes, rfl⟩ := FileTree.write_eq_ok_iff.mp written
        have same := takes.sameDirectories_put
        split
        · exact takes.read?_put own _
        · dsimp only
          rw [ih fun product member => (same _).apart.mpr (later product member),
            takes.read?_put own]

/-! ## Runs -/

/-- A run that fails with an exit code and writes nothing. -/
structure Fails (tree : FileTree) (code : Nat) (outcome : Outcome) : Prop where
  exitCode : outcome.exitCode = code
  files : outcome.files = tree

/-- A run that ends with an exit code and writes files, one after the other. If no two of them are
at one place, each can be read back. Nothing else changes. -/
structure Writes (tree : FileTree) (code : Nat) (files : List (Path × String)) (outcome : Outcome) :
    Prop where
  exitCode : outcome.exitCode = code
  written : tree.writeFiles files = .ok outcome.files
  contents : (files.map Prod.fst).Pairwise tree.Apart →
    ∀ file ∈ files, outcome.files.read? file.1 = some file.2.toUTF8.data.toList
  others : ∀ place, (∀ file ∈ files, tree.locate file.1 ≠ .ok place) →
    outcome.files.node? place = tree.node? place

theorem Writes.of_writeFiles {code : Nat} {files : List (Path × String)} {outcome : Outcome}
    (exit : outcome.exitCode = code) (written : tree.writeFiles files = .ok outcome.files) :
    Writes tree code files outcome := by
  refine ⟨exit, written, ?_, ?_⟩
  · intro apart
    exact FileTree.writeFiles_read? written (List.pairwise_map.mp apart)
  · intro place elsewhere
    exact FileTree.writeFiles_node? written elsewhere

/-- What a run does with an image. Its document can be read back from the text of the image file. If
no label has half of a pair in it, or only the image file is wanted, then the run writes this file
with the listing and the symbol file that are wanted, and ends well. With such a label it writes the
image file, leaves the first of the other files empty and fails with the exit code 3. -/
def Delivers (tree : FileTree) (options : Options) (output : Path) (image : Image)
    (outcome : Outcome) : Prop :=
  ∃ document listing, image.toJson = .ok document ∧ image.listing = .ok listing ∧
    Json.ofChars (document.pretty ++ "\n").toList = .ok document ∧
    ((∀ path ∈ output :: options.extras, ∃ place, tree.Takes path place) →
      (options.extras = [] ∨ (∀ name ∈ image.symbols.names, name.Whole) →
        ∃ files, texts files = options.files output (Text.ofString (document.pretty ++ "\n"))
            listing image.symbolListing ∧
          Writes tree 0 files outcome) ∧
      ∀ path others, options.extras = path :: others →
        (∃ name ∈ image.symbols.names, ¬ name.Whole) →
        Writes tree 3 [(output, document.pretty ++ "\n"), (path, "")] outcome)

section Input

variable (found : tree.read? options.input = some bytes)

include found

theorem runWith_fails {e : Error}
    (failed : (Session.Call.file options.input.text (some bytes)).outcome config = .error e) :
    Fails tree (failureOf e).exitCode (runWith tree options output config) := by
  simp only [runWith, found, Session.Call.snd_assembleLoaded, failed]
  exact ⟨rfl, rfl⟩

theorem runWith_written (output : Path)
    (ended : (Session.Call.file options.input.text (some bytes)).outcome config = .ok image) :
    (runWith tree options output config).files =
        (writeAll tree (products options output image)).files ∧
      (runWith tree options output config).exitCode =
        ((writeAll tree (products options output image)).failure.map Failure.exitCode).getD 0 := by
  simp only [runWith, found, Session.Call.snd_assembleLoaded, ended]
  cases (writeAll tree (products options output image)).failure with
  | none => exact ⟨rfl, rfl⟩
  | some failure => exact ⟨rfl, rfl⟩

/-- A run writes all files that are wanted if their texts are strings. -/
theorem runWith_writes
    (ended : (Session.Call.file options.input.text (some bytes)).outcome config = .ok image)
    {files : List (Path × String)}
    (want : List.Forall₂ Product.Wants (products options output image) (texts files))
    (takes : ∀ path ∈ output :: options.extras, ∃ place, tree.Takes path place) :
    Writes tree 0 files (runWith tree options output config) := by
  have paths : files.map Prod.fst = output :: options.extras := by
    rw [← Options.map_path_products image, ← Product.map_fst_of_wants want, texts, List.map_map]
    rfl
  rw [← paths, List.forall_mem_map] at takes
  obtain ⟨after, written⟩ := FileTree.exists_writeFiles takes
  have all := writeAll_append want written []
  rw [List.append_nil] at all
  obtain ⟨left, exit⟩ := runWith_written found output ended
  rw [all] at left exit
  exact .of_writeFiles exit (by rw [left, written]; rfl)

/-- A run stops at a listing or a symbol file whose text has half of a pair in it. -/
theorem runWith_stops
    (ended : (Session.Call.file options.input.text (some bytes)).outcome config = .ok image)
    {document : String} {listing : Text} (stored : image.fileText = .ok document)
    (listed : image.listing = .ok listing) (halves : ¬ listing.Whole ∧ ¬ image.symbolListing.Whole)
    {path : Path} {others : List Path} (wanted : options.extras = path :: others)
    (takes : ∀ path ∈ output :: options.extras, ∃ place, tree.Takes path place) :
    Writes tree 3 [(output, document), (path, "")] (runWith tree options output config) := by
  obtain ⟨text, rest, files, isText⟩ :=
    Options.files_of_extras wanted output (Text.ofString document) listing image.symbolListing
  have broken : ¬ text.Whole := by
    rcases isText with rfl | rfl
    · exact halves.1
    · exact halves.2
  have want := products_want options output stored listed
  rw [files] at want
  obtain ⟨left, exit⟩ := runWith_written found output ended
  generalize products options output image = products at want left exit
  rw [wanted, List.forall_mem_cons, List.forall_mem_cons] at takes
  obtain ⟨⟨place, takes⟩, ⟨second, takesSecond⟩, -⟩ := takes
  have takesSecond :=
    (takes.sameDirectories_put document.toUTF8.data.toList).takes.mpr takesSecond
  cases want with
  | @cons image _ _ _ first want =>
    cases want with
    | @cons extra _ rest _ next _ =>
      obtain ⟨rfl, wantsImage⟩ : image.path = output ∧ _ := first
      obtain ⟨rfl, wantsExtra⟩ : extra.path = path ∧ _ := next
      obtain ⟨fault, stops⟩ := writeAll_cons_of_not_whole wantsExtra broken takesSecond rest
      rw [writeAll_cons wantsImage takes, stops] at left exit
      refine .of_writeFiles exit ?_
      rw [left]
      exact FileTree.writeFiles_cons_eq_ok_iff.mpr ⟨place, takes,
        FileTree.writeFiles_cons_eq_ok_iff.mpr ⟨second, takesSecond, rfl⟩⟩

theorem runWith_delivers
    (ended : (Session.Call.file options.input.text (some bytes)).outcome config = .ok image) :
    Delivers tree options output image (runWith tree options output config) := by
  obtain ⟨document, listing, toJson, listed, stored, restored, whole⟩ :=
    Session.Call.outcome_texts ended
  refine ⟨document, listing, toJson, listed, restored, fun takes => ⟨?_, ?_⟩⟩
  · intro suits
    obtain ⟨files, same⟩ := exists_texts <| Options.files_whole output suits
      (Text.whole_ofString (document.pretty ++ "\n")) whole.mpr Image.whole_symbolListing.mpr
    have want := products_want options output stored listed
    rw [same] at want
    exact ⟨files, same.symm, runWith_writes found ended want takes⟩
  · rintro path others wanted ⟨name, member, half⟩
    have broken : ¬ ∀ name ∈ image.symbols.names, name.Whole :=
      fun all => half (all name member)
    exact runWith_stops found ended stored listed
      ⟨mt whole.mp broken, mt Image.whole_symbolListing.mp broken⟩ wanted takes

theorem runWith_input (apart : ∀ path ∈ output :: options.extras, tree.Apart path options.input) :
    (runWith tree options output config).files.read? options.input = some bytes := by
  cases ended : (Session.Call.file options.input.text (some bytes)).outcome config with
  | error e => rw [(runWith_fails found ended).files, found]
  | ok image =>
    rw [(runWith_written found output ended).1]
    rw [← Options.map_path_products image, List.forall_mem_map] at apart
    rw [writeAll_read? apart, found]

end Input

/-- Once the image file has a name, only the configuration can be refused. -/
theorem runOptions_eq (named : options.imagePath = .ok output) :
    runOptions tree options =
      match Config.make options.dataBase options.instructionBase options.wordBits with
      | .error fault =>
        { exitCode := 2
          stderr := failureText options.verbose activity (.configuration fault.text)
          files := tree }
      | .ok config => runWith tree options output config := by
  unfold Options.imagePath at named
  unfold runOptions
  cases given : options.output with
  | some path =>
    simp only [given, Except.ok.injEq] at named
    subst named
    rfl
  | none =>
    simp only [given] at named
    simp only [named]
    rfl

theorem runOptions_input (found : tree.read? options.input = some bytes)
    (named : options.imagePath = .ok output)
    (apart : ∀ path ∈ output :: options.extras, tree.Apart path options.input) :
    (runOptions tree options).files.read? options.input = some bytes := by
  rw [runOptions_eq named]
  split
  · exact found
  · exact runWith_input found apart

theorem run_delivers (asks : Asks tree arguments options)
    (found : tree.read? options.input = some bytes) (named : options.imagePath = .ok output)
    (accepted : Config.make options.dataBase options.instructionBase options.wordBits = .ok config)
    (ended : (Session.Call.file options.input.text (some bytes)).outcome config = .ok image) :
    Delivers tree options output image (run tree arguments) := by
  rw [asks.run_eq, runOptions_eq named, accepted]
  exact runWith_delivers found ended

/-- A command line that asks for an assembly ends in one of four ways. It fails with the exit code 2
if the configuration is refused, with 1 if the input cannot be read or assembled, and with 3 on any
other fault, and then writes nothing. Otherwise there is an image, and the run delivers it. An image
file that is not named is another file than the input, which then stays as it is unless it is named
as one of the other files. -/
theorem run_outcome (asks : Asks tree arguments options) :
    ∃ bytes output, tree.read? options.input = some bytes ∧ options.imagePath = .ok output ∧
      (match Config.make options.dataBase options.instructionBase options.wordBits with
        | .error _ => Fails tree 2 (run tree arguments)
        | .ok config =>
          match (Session.Call.file options.input.text (some bytes)).outcome config with
          | .error (.diagnostic _) => Fails tree 1 (run tree arguments)
          | .error (.fault _) => Fails tree 3 (run tree arguments)
          | .ok image => Delivers tree options output image (run tree arguments)) ∧
      (options.output = none → output ≠ options.input ∧
        ((∀ path ∈ options.extras, tree.Apart path options.input) →
          (run tree arguments).files.read? options.input = some bytes)) := by
  obtain ⟨bytes, found⟩ := asks.exists_input
  obtain ⟨output, named⟩ := Options.exists_imagePath found
  refine ⟨bytes, output, found, named, ?_, ?_⟩
  · rw [asks.run_eq, runOptions_eq named]
    cases Config.make options.dataBase options.instructionBase options.wordBits with
    | error fault => exact ⟨rfl, rfl⟩
    | ok config =>
      dsimp only
      split
      · rename_i failed
        exact runWith_fails found failed
      · rename_i fault failed
        have code := (Session.Call.outcome_reads _ failed).exitCode
        exact code ▸ runWith_fails found failed
      · rename_i ended
        exact runWith_delivers found ended
  · intro unnamed
    have unasked : options.input.defaultImage = .ok output := by
      rw [← named, Options.imagePath, unnamed]
    refine ⟨Path.defaultImage_ne unasked, ?_⟩
    intro apart
    rw [asks.run_eq]
    apply runOptions_input found named
    intro path member
    rcases List.mem_cons.mp member with rfl | beside
    · exact FileTree.apart_defaultImage unasked found
    · exact apart path beside

/-- A working directory with a program that jumps to itself. -/
def loopTree : FileTree :=
  ⟨[(["loop.json"], .file ("\x7b\"instructions\": [\x7b\"label\": \"loop\", \"mnemonic\": \"JMP\", "
    ++ "\"operands\": [\x7b\"identifier\": \"loop\"\x7d]\x7d]\x7d").toUTF8.toList)]⟩

/-- The options of an assembly of this program with a listing. -/
def loopOptions : Options where
  input := ⟨"", ["loop.json"]⟩
  listing := some ⟨"", ["loop.lst"]⟩

/-- The text of the image file. -/
def loopDocument : String := "\x7b
  \"word_size\": 32,
  \"data_base\": 0,
  \"data_size\": 0,
  \"instruction_base\": 0,
  \"instruction_size\": 4,
  \"data\": [],
  \"instructions\": [
    \x7b
      \"address\": 0,
      \"label\": \"loop\",
      \"mnemonic\": \"JMP\",
      \"class\": \"jump\",
      \"operands\": \x7b
        \"target\": 0
      \x7d,
      \"expanded_from\": null,
      \"source\": \".instructions[0]\",
      \"text\": \"JMP 0x0000\"
    \x7d
  ],
  \"symbols\": [
    \x7b
      \"name\": \"loop\",
      \"address\": 0,
      \"segment\": \"instructions\"
    \x7d
  ],
  \"warnings\": []
\x7d
"

/-- The lines of the listing. -/
def loopListing : List String :=
  ["vasm Assembler Listing\n",
   "============================================================\n",
   "\n",
   "Addr      Label             Source\n",
   "------------------------------------------------------------\n",
   "00000000  loop:             JMP 0x0000\n",
   "\n",
   "Symbol Table\n",
   "------------------------------\n",
   "loop                 = 0x00000000  .instructions\n"]

theorem run_outcome_loop :
    Asks loopTree ["loop.json", "-l", "loop.lst"] loopOptions ∧
      Writes loopTree 0
        [(⟨"", ["loop.img.json"]⟩, loopDocument), (⟨"", ["loop.lst"]⟩, String.join loopListing)]
        (run loopTree ["loop.json", "-l", "loop.lst"]) := by
  have asks : Asks loopTree ["loop.json", "-l", "loop.lst"] loopOptions :=
    ⟨⟨[⟨.listing, "loop.lst"⟩], ["loop.json"]⟩,
      Outcome.toOption_eq_some_iff.mp (by decide +kernel), by decide,
      Outcome.toOption_eq_some_iff.mp (by decide +kernel)⟩
  obtain ⟨bytes, output, found, named, ends, -⟩ := run_outcome asks
  have imagePath : loopOptions.imagePath = .ok ⟨"", ["loop.img.json"]⟩ :=
    Outcome.toOption_eq_some_iff.mp (by decide +kernel)
  have standard : Config.make loopOptions.dataBase loopOptions.instructionBase
      loopOptions.wordBits = .ok .standard := rfl
  have assembles : (((Session.Call.file loopOptions.input.text
      (loopTree.read? loopOptions.input)).outcome .standard).toOption.any fun image =>
        image.symbols.names = [Text.ofString "loop"] ∧
          (image.toJson.toOption.map fun document => document.pretty ++ "\n") =
            some loopDocument ∧
          image.listing.toOption = some (loopListing.flatMap Text.ofString)) = true := by
    decide +kernel
  rw [found] at assembles
  obtain ⟨image, ended, shows⟩ := (Option.any_eq_true _ _).mp assembles
  rw [imagePath, Except.ok.injEq] at named
  subst named
  rw [standard] at ends
  dsimp only at ends
  rw [Outcome.toOption_eq_some_iff.mp ended] at ends
  obtain ⟨document, listing, toJson, listed, -, delivers⟩ := ends
  simp only [toJson, listed, Except.toOption, Option.map_some, Option.some.injEq,
    decide_eq_true_eq] at shows
  obtain ⟨names, stored, shown⟩ := shows
  rw [stored, shown, ← Text.ofString_join] at delivers
  have takes : ∀ path ∈ ⟨"", ["loop.img.json"]⟩ :: loopOptions.extras,
      ∃ place, loopTree.Takes path place := by
    refine List.forall_mem_cons.mpr ⟨⟨["loop.img.json"], rfl, by decide +kernel⟩, ?_⟩
    exact List.forall_mem_singleton.mpr ⟨["loop.lst"], rfl, by decide +kernel⟩
  have whole : ∀ name ∈ image.symbols.names, name.Whole := by
    rw [names, List.forall_mem_singleton]
    exact Text.whole_ofString "loop"
  obtain ⟨files, same, writes⟩ := (delivers takes).1 (.inr whole)
  have written : files =
      [(⟨"", ["loop.img.json"]⟩, loopDocument), (⟨"", ["loop.lst"]⟩, String.join loopListing)] :=
    texts_injective same
  exact ⟨asks, written ▸ writes⟩

/-- A working directory with a program whose label is half of a pair. -/
def halfTree : FileTree :=
  ⟨[(["half.json"], .file ("\x7b\"data\": [\x7b\"label\": \"\\ud800\", "
    ++ "\"kind\": \"byte\", \"values\": [1]\x7d]\x7d").toUTF8.toList)]⟩

/-- The options of an assembly of this program with a listing. -/
def halfOptions : Options where
  input := ⟨"", ["half.json"]⟩
  listing := some ⟨"", ["half.lst"]⟩

/-- A run that fails with the exit code 3 may leave files: an image file, and an empty listing. -/
theorem not_unchanged_of_half_pair :
    Asks halfTree ["half.json", "-l", "half.lst"] halfOptions ∧
      (run halfTree ["half.json", "-l", "half.lst"]).exitCode = 3 ∧
      halfTree.read? ⟨"", ["half.img.json"]⟩ = none ∧
      ((run halfTree ["half.json", "-l", "half.lst"]).files.read?
        ⟨"", ["half.img.json"]⟩).isSome ∧
      (run halfTree ["half.json", "-l", "half.lst"]).files.read? ⟨"", ["half.lst"]⟩ = some [] := by
  have asks : Asks halfTree ["half.json", "-l", "half.lst"] halfOptions :=
    ⟨⟨[⟨.listing, "half.lst"⟩], ["half.json"]⟩,
      Outcome.toOption_eq_some_iff.mp (by decide +kernel), by decide,
      Outcome.toOption_eq_some_iff.mp (by decide +kernel)⟩
  have named : halfOptions.imagePath = .ok ⟨"", ["half.img.json"]⟩ :=
    Outcome.toOption_eq_some_iff.mp (by decide +kernel)
  have assembles : (((Session.Call.file halfOptions.input.text
      (halfTree.read? halfOptions.input)).outcome .standard).toOption.any fun image =>
        image.symbols.names = [[.surrogate 0]]) = true := by
    decide +kernel
  obtain ⟨bytes, found⟩ := asks.exists_input
  rw [found] at assembles
  obtain ⟨image, ended, names⟩ := (Option.any_eq_true _ _).mp assembles
  obtain ⟨document, listing, -, -, -, delivers⟩ :=
    run_delivers asks found named rfl (Outcome.toOption_eq_some_iff.mp ended)
  have takes : ∀ path ∈ ⟨"", ["half.img.json"]⟩ :: halfOptions.extras,
      ∃ place, halfTree.Takes path place := by
    refine List.forall_mem_cons.mpr ⟨⟨["half.img.json"], rfl, by decide +kernel⟩, ?_⟩
    exact List.forall_mem_singleton.mpr ⟨["half.lst"], rfl, by decide +kernel⟩
  have half : ∃ name ∈ image.symbols.names, ¬ name.Whole := by
    rw [of_decide_eq_true names]
    exact ⟨_, List.mem_singleton_self _, by simp [Text.whole_iff]⟩
  have writes := (delivers takes).2 ⟨"", ["half.lst"]⟩ [] rfl half
  have apart : halfTree.Apart ⟨"", ["half.img.json"]⟩ ⟨"", ["half.lst"]⟩ := by
    rintro place (first : Except.ok ["half.img.json"] = _) (second : Except.ok ["half.lst"] = _)
    cases first
    simp at second
  obtain ⟨document, listing, -⟩ : _ ∧ _ ∧ _ := by
    simpa only [List.forall_mem_cons] using writes.contents (by simp [apart])
  exact ⟨asks, writes.exitCode, by decide +kernel, Option.isSome_of_eq_some document, listing⟩

end CommandLine

end Assembler
