import Assembler.Proofs.AddressSpace
import Assembler.Proofs.Checking

/-!
# Errors that a program is blamed for

A program from a document can be wrong in three ways: a number does not fit, a label is defined
twice, or a label is missing. `Error.Reported` holds of these errors, each with the statement that
it concerns. No other error comes out of the layout of such a program.
-/

namespace Assembler

/-- Whether a cause lies in the program and not in the assembler. -/
def Cause.isInput : Cause → Bool
  | .overflow _ | .undefined .. | .duplicate .. => true
  | _ => false

/-- An error at a statement that lies in the program. -/
def Error.Reported (e : Error) : Prop :=
  ∃ (location : Location) (cause : Cause), e = .located location cause ∧ cause.isInput = true

namespace Error.Reported

variable {location : Location}

theorem overflow (o : Overflow) : Reported (.located location (.overflow o)) :=
  ⟨location, _, rfl, rfl⟩

theorem duplicate (name : Text) (first : Option Location) :
    Reported (.located location (.duplicate name first)) :=
  ⟨location, _, rfl, rfl⟩

theorem undefined (symbols : SymbolTable) (name : Text) :
    Reported (.located location (symbols.undefined name)) :=
  ⟨location, _, rfl, rfl⟩

end Error.Reported

/-! ## Numbers -/

theorem Operand.IsNumeral.fit_reported {o : Operand} (read : o.IsNumeral) {width : Nat}
    (field : FieldWidth width) {signedness : Signedness} {location : Location} {e : Error}
    (failed : o.fit width signedness location = .error e) : e.Reported := by
  obtain ⟨l, rfl, wasRead⟩ := read
  obtain ⟨-, rfl⟩ := (Form.fit_eq_error_iff wasRead field).mp failed
  exact .overflow _

theorem Element.valuesIn_reported {kind : ListKind} {location : Location}
    {operands : List Operand} (read : ∀ o ∈ operands, o.IsNumeral) {e : Error}
    (failed : valuesIn kind location operands = .error e) : e.Reported := by
  induction operands with
  | nil => cases failed
  | cons operand rest ih =>
    obtain ⟨first, others⟩ := List.forall_mem_cons.mp read
    obtain ⟨l, rfl, wasRead⟩ := first
    simp only [valuesIn] at failed
    split at failed
    · rename_i error
      cases failed
      obtain ⟨-, rfl⟩ := (Form.fit_eq_error_iff wasRead kind.fieldWidth).mp error
      exact .overflow _
    · split at failed
      · rename_i error
        cases failed
        exact ih others error
      · cases failed

/-! ## The layout -/

namespace Layout

variable {α β : Type} {w : WordSize} {segment : Segment} {place : Placing α β}

theorem placeData_reported {statement : Statement Element} (read : statement.body.WasRead)
    {address : Int} {location : Location} {e : Error}
    (failed : placeData w address location statement = .error e) : e.Reported := by
  unfold placeData at failed
  cases element : statement.body with
  | block size =>
    rw [element] at read failed
    split at failed
    · rename_i error
      cases failed
      exact Operand.IsNumeral.fit_reported read w.fieldWidth error
    · cases failed
  | list kind values =>
    rw [element] at read failed
    simp only [Element.size, Element.values] at failed
    split at failed
    · rename_i error
      cases failed
      exact Element.valuesIn_reported read error
    · cases failed

theorem placeInstruction_reported {statement : Statement Instruction} {form : Form}
    (isForm : statement.body = .form form) (read : form.WasRead) {address : Int}
    {location : Location} {e : Error}
    (failed : placeInstruction w address location statement = .error e) : e.Reported := by
  rw [placeInstruction, Outcome.map_eq_error_iff, isForm] at failed
  have operands := read.operands
  cases form with
  | loadWord rd imm =>
    exact operands.fit_reported w.fieldWidth (Outcome.map_eq_error_iff.mp failed)
  | _ => cases failed

/-- Where a walk stops, a label is defined again, or the statement cannot be placed, or it ends
outside the address space. -/
theorem walk_reported {start : β → Int} (records : Records place start) {index : Nat}
    {address : Int} {symbols : SymbolTable} (unfrozen : symbols.frozen = false)
    {statements : List (Statement α)} {stop : Stop}
    (places : ∀ statement ∈ statements, ∀ {address location e},
      place address location statement = .error e → e.Reported)
    (failed : walk w segment place index address symbols statements = .error stop) :
    stop.error.Reported := by
  obtain ⟨before, statement, after, walked, rfl, steps, stops⟩ := walk_eq_error failed
  cases stops with
  | label error =>
    have still : walked.symbols.frozen = false := by
      rw [steps.symbols_eq records]
      exact unfrozen
    cases label : statement.label with
    | none =>
      rw [label] at error
      cases error
    | some name =>
      rw [label] at error
      obtain ⟨first, -, rfl⟩ := (SymbolTable.define_eq_error_iff still).mp error
      exact .duplicate name _
  | place _ error => exact places statement (by simp) error
  | ends _ _ error =>
    obtain ⟨-, rfl⟩ := checkEnd_eq_error_iff.mp error
    exact .overflow _

/-- The layout of a program that was read fails for a reason in the program. -/
theorem build_reported {program : Program} (read : program.WasRead) {config : Config}
    {stop : Stop} (failed : build program config = .error stop) : stop.error.Reported := by
  rcases build_eq_error failed with data | ⟨walked, steps, code⟩
  · refine walk_reported placeData_records rfl ?_ data
    intro statement member address location e error
    exact placeData_reported (read.data statement member) error
  · have unfrozen : walked.symbols.frozen = false := by
      rw [steps.symbols_eq placeData_records]
    refine walk_reported placeInstruction_records unfrozen ?_ code
    intro statement member address location e error
    obtain ⟨form, isForm, wasRead⟩ := read.instructions statement member
    exact placeInstruction_reported isForm wasRead error

end Layout

end Assembler
