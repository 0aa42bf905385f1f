import Assembler.Document
import Assembler.Proofs.Outcome

/-!
# Faults of reading

Reading a file ends in a program, in a diagnostic, or in one of a few faults: bytes that are no
text, a number with too many digits, or a data kind that cannot be compared. So whatever goes wrong
with a file that is there, the error does not say that it is missing.
-/

namespace Assembler

/-- An error that reading may end in. -/
def Error.OfReading : Error → Prop
  | .diagnostic _ => True
  | .fault (.numeralTooLong _) | .fault .numberTooLong | .fault (.compoundKind _)
  | .fault (.undecodable _) => True
  | .fault _ => False

/-- A result that, if it is an error, is one of reading. -/
def Outcome.Reads {α : Type} (x : Except Error α) : Prop := ∀ e, x = .error e → e.OfReading

namespace Document

open Outcome (Reads)

variable {α : Type} {location : Location} {entry : List (Text × Json)}

theorem reads_ok (a : α) : Reads (.ok a) := by
  rintro _ ⟨⟩

theorem reads_error {e : Error} (ofReading : e.OfReading) : Reads (.error e : Except Error α) := by
  rintro _ ⟨⟩
  exact ofReading

theorem reads_map {β : Type} {x : Except Error α} {f : α → β} (reads : Reads x) :
    Reads (x.map f) := by
  intro e failed
  exact reads e (Outcome.map_eq_error_iff.mp failed)

theorem reads_shapeOf (value : Json) (fault : ShapeFault) :
    (Error.shapeOf location value fault).OfReading := by
  unfold Error.shapeOf
  split <;> trivial

/-! ## Literals and data -/

theorem readLabel_reads : Reads (readLabel entry location) := by
  unfold readLabel
  split
  · exact reads_ok _
  · exact reads_ok _
  · split
    · exact reads_error trivial
    · exact reads_ok _
  · exact reads_error trivial

theorem parseLiteral_reads (text : Text) (place : Option Location) :
    Reads (parseLiteral text place) := by
  intro e failed
  obtain ⟨refusal, -, rfl⟩ := Outcome.mapError_eq_error_iff.mp failed
  cases refusal <;> trivial

theorem readLiteral_reads (value : Json) : Reads (readLiteral value location) := by
  unfold readLiteral
  split
  · exact parseLiteral_reads _ _
  · split
    · exact parseLiteral_reads _ _
    · exact reads_error trivial
  · exact reads_error (reads_shapeOf _ _)

theorem readLiterals_reads (values : List Json) : Reads (readLiterals location values) := by
  induction values with
  | nil => exact reads_ok _
  | cons value rest ih =>
    unfold readLiterals
    split
    · rename_i failed
      exact reads_error (readLiteral_reads value _ failed)
    · split
      · rename_i failed
        exact reads_error (ih _ failed)
      · exact reads_ok _

theorem readElement_reads : Reads (readElement entry location) := by
  unfold readElement
  split
  · split
    · split
      · exact reads_error trivial
      · exact reads_map (readLiteral_reads _)
    · split
      · unfold readList
        split
        · exact reads_map (readLiterals_reads _)
        · exact reads_error trivial
      · exact reads_error trivial
  · exact reads_error trivial
  · exact reads_error trivial
  · exact reads_error (reads_shapeOf _ _)

theorem readData_reads (value : Json) : Reads (readData value location) := by
  unfold readData
  split
  · split
    · rename_i failed
      exact reads_error (readLabel_reads _ failed)
    · exact reads_map readElement_reads
  · exact reads_error trivial

/-! ## Instructions -/

theorem readKeyed_reads (key : Text) (value : Json) : Reads (readKeyed key value location) := by
  unfold readKeyed
  split
  · split
    · split
      · exact reads_ok _
      · exact reads_error trivial
    · exact reads_error (reads_shapeOf _ _)
  · split
    · exact reads_map (readLiteral_reads value)
    · split
      · split
        · exact reads_error trivial
        · exact reads_ok _
      · exact reads_error trivial

theorem readOperands_reads (op : Opcode) (kinds : List OperandKind) (values : List Json) :
    Reads (readOperands op location kinds values) := by
  have one : ∀ kind value, Reads (readOperand op kind value location) := by
    intro kind value
    unfold readOperand
    split
    · split
      · exact readKeyed_reads _ _
      · exact reads_error trivial
    · exact reads_error trivial
  induction kinds generalizing values with
  | nil => exact reads_ok _
  | cons kind kinds ih =>
    cases values with
    | nil => exact reads_ok _
    | cons value values =>
      unfold readOperands
      split
      · rename_i failed
        exact reads_error (one kind value _ failed)
      · split
        · rename_i failed
          exact reads_error (ih values _ failed)
        · exact reads_ok _

theorem listField_reads (key : Text) (fields : List (Text × Json)) {refusal : Error}
    (ofReading : refusal.OfReading) : Reads (listField key fields refusal) := by
  unfold listField
  split
  · exact reads_ok _
  · exact reads_ok _
  · exact reads_error ofReading

theorem readForm_reads : Reads (readForm entry location) := by
  unfold readForm
  split
  · split
    · exact reads_error trivial
    · split
      · rename_i failed
        exact reads_error (listField_reads _ _ (by trivial) _ failed)
      · split
        · exact reads_error trivial
        · split
          · rename_i failed
            exact reads_error (readOperands_reads _ _ _ _ failed)
          · split
            · exact reads_ok _
            · exact reads_error trivial
  · exact reads_error trivial

theorem readInstruction_reads (value : Json) : Reads (readInstruction value location) := by
  unfold readInstruction
  split
  · split
    · rename_i failed
      exact reads_error (readForm_reads _ failed)
    · exact reads_map readLabel_reads
  · exact reads_error trivial

/-! ## Documents and files -/

theorem readEntries_reads {read : Json → Location → Except Error α}
    (each : ∀ value place, Reads (read value place)) (segment : Segment) (index : Nat)
    (values : List Json) : Reads (readEntries read segment index values) := by
  induction values generalizing index with
  | nil => exact reads_ok _
  | cons value rest ih =>
    unfold readEntries
    split
    · rename_i failed
      exact reads_error (each value _ _ failed)
    · split
      · rename_i failed
        exact reads_error (ih _ _ failed)
      · exact reads_ok _

theorem ofJson_reads (document : Json) : Reads (Program.ofJson document) := by
  unfold Program.ofJson
  split
  · split
    · exact reads_error trivial
    · split
      · rename_i failed
        exact reads_error (listField_reads _ _ (by trivial) _ failed)
      · rename_i failed
        exact reads_error (listField_reads _ _ (by trivial) _ failed)
      · split
        · rename_i failed
          exact reads_error (readEntries_reads (fun _ _ => readData_reads _) _ _ _ _ failed)
        · exact reads_map (readEntries_reads (fun _ _ => readInstruction_reads _) _ _ _)
  · exact reads_error trivial

end Document

open Document in
/-- What goes wrong when a file is read. -/
theorem Program.ofFile_reads (path : String) (bytes : List UInt8) :
    Outcome.Reads (Program.ofFile path bytes) := by
  unfold Program.ofFile
  split
  · exact reads_error trivial
  · dsimp only
    split
    · exact ofJson_reads _
    · exact reads_error trivial
    · exact reads_error trivial

end Assembler
