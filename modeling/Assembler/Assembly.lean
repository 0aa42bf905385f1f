import Assembler.Document
import Assembler.Image

/-!
# Assembly

The passes in order, and a session that keeps the image of its last assembly.
-/

namespace Assembler

/-- Assemble a program: layout, expansion, resolution, image. -/
def assemble (program : Program) (config : Config) : Except Error Image :=
  match Layout.build program config with
  | .error stop => .error stop.error
  | .ok layout =>
    match expandSegment config.wordSize.bits program.instructions layout.instructionAddresses with
    | .error e => .error e
    | .ok placed =>
      let resolution := resolve layout.symbols placed
      match resolution.outcome with
      | .error e => .error e
      | .ok instructions =>
        Image.build { layout with symbols := resolution.symbols } instructions
          resolution.warnings

/-- A configuration and the image that was assembled last. -/
structure Session where
  config : Config
  image : Option Image := none

namespace Session

/-- The current image. -/
def current (s : Session) : Except Error Image :=
  match s.image with
  | some image => .ok image
  | none => .error (.located none .nothingAssembled)

/-- The labels of the current image with their addresses. -/
def symbols (s : Session) : Except Error (List (Text × Int)) :=
  s.current.map fun image => image.symbols.addresses

/-- The listing of the current image. -/
def listing (s : Session) : Except Error Text :=
  match s.current with
  | .ok image => image.listing
  | .error e => .error e

/-- The text of the image file of the current image. -/
def imageText (s : Session) : Except Error String :=
  match s.current with
  | .ok image => image.fileText
  | .error e => .error e

/-- The text of the symbol file of the current image. -/
def symbolText (s : Session) : Except Error Text := s.current.map Image.symbolListing

/-- Assemble a program. A failure leaves no image. -/
def assemble (s : Session) (program : Program) : Session × Except Error Image :=
  match Assembler.assemble program s.config with
  | .ok image => ({ s with image := some image }, .ok image)
  | .error e => ({ s with image := none }, .error e)

/-- Assemble a program if there is one. What fails before a program is there leaves the session as
it was. -/
def assembleLoaded (s : Session) (loaded : Except Error Program) : Session × Except Error Image :=
  match loaded with
  | .ok program => s.assemble program
  | .error e => (s, .error e)

/-- Assemble a file, given by its bytes if it exists. -/
def assembleFile (s : Session) (path : String) (bytes : Option (List UInt8)) :
    Session × Except Error Image :=
  match bytes with
  | some bytes => s.assembleLoaded (Program.ofFile path bytes)
  | none => (s, .error (.fault (.missingFile path)))

end Session

end Assembler
