import Assembler.Proofs.Fitting
import Assembler.Proofs.Layout
import Assembler.Proofs.Reading

/-!
# The address space

No size in a layout is negative, unless a block has a literal with a negative number for its size,
which reading never makes. So addresses only grow from the bases of the segments on, and what a walk
checks at the end of a statement bounds all of its bytes. A statement without bytes still starts
inside the address space.
-/

namespace Assembler

/-- A stretch of bytes lies in the address space. If it is empty its address does. -/
structure WordSize.Spans (w : WordSize) (address size : Int) : Prop where
  start : 0 ≤ address
  ends : address + max size 1 ≤ Bits.patterns w.bits

namespace WordSize.Spans

variable {w : WordSize} {address size : Int}

theorem of_end (start : 0 ≤ address) (ends : w.holds (address + max size 1 - 1) = true) :
    w.Spans address size := by
  have below := (holds_iff.mp ends).2
  exact ⟨start, by omega⟩

theorem holds_start (spans : w.Spans address size) : w.holds address = true := by
  have ends := spans.ends
  exact holds_iff.mpr ⟨spans.start, by omega⟩

/-- Each byte of a stretch lies in the address space. -/
theorem holds_byte (spans : w.Spans address size) {offset : Int} (nonneg : 0 ≤ offset)
    (below : offset < size) : w.holds (address + offset) = true := by
  have start := spans.start
  have ends := spans.ends
  exact holds_iff.mpr ⟨by omega, by omega⟩

end WordSize.Spans

theorem WordSize.bytes_pos (w : WordSize) : 0 < w.bytes := by
  cases w <;> decide

/-! ## Bases -/

theorem Config.dataBase_nonneg (config : Config) : 0 ≤ config.dataBase :=
  (WordSize.holds_iff.mp config.dataBase_holds).1

/-- Instructions that follow the data start where these end. -/
theorem Config.instructionBase_nonneg (config : Config) {next : Int} (nonneg : 0 ≤ next) :
    0 ≤ config.instructionBase.getD next := by
  cases configured : config.instructionBase with
  | none => exact nonneg
  | some base => exact (WordSize.holds_iff.mp (config.instructionBase_holds base configured)).1

/-! ## Sizes -/

/-- The magnitude of a literal that gives the size of an area is an absolute value. -/
def Element.AbsoluteSize : Element → Prop
  | .block (.numeral l) => l.Absolute
  | _ => True

instance : DecidablePred Element.AbsoluteSize
  | .block (.numeral l) => inferInstanceAs (Decidable l.Absolute)
  | .block (.number _) | .block (.fixed _) | .block (.label _) | .block (.address _)
  | .list _ _ => .isTrue trivial

/-- The sizes of areas are written with absolute values. -/
def Program.AbsoluteSizes (program : Program) : Prop :=
  ∀ s ∈ program.data, s.body.AbsoluteSize

instance (program : Program) : Decidable program.AbsoluteSizes :=
  inferInstanceAs (Decidable (∀ s ∈ program.data, s.body.AbsoluteSize))

/-- A size that is a literal is taken as a bit pattern, which is not negative if the number of the
literal is not. -/
theorem Element.size_nonneg {element : Element} {w : WordSize} {location : Option Location}
    {size : Int} (sized : element.size w.bits location = .ok size)
    (absolute : element.AbsoluteSize) : 0 ≤ size := by
  cases element with
  | block o =>
    rcases (Operand.fit_eq_ok_iff w.fieldWidth).mp sized with ⟨l, rfl, fit⟩ | ⟨-, inside⟩
    · exact (Literal.interpret_unsigned_range absolute fit).1
    · exact (Bits.unsignedRange_holds_iff.mp inside).1
  | list kind operands =>
    rw [Element.size_list sized]
    exact_mod_cast Nat.zero_le (kind.width * operands.length)

/-- The literals of an element that was read have no negative magnitudes. -/
theorem Element.WasRead.absoluteSize {element : Element} (read : element.WasRead) :
    element.AbsoluteSize := by
  cases element with
  | block size =>
    obtain ⟨_, rfl, literal⟩ := read
    exact literal.nonneg
  | list kind values => trivial

theorem Program.WasRead.absoluteSizes {program : Program} (read : program.WasRead) :
    program.AbsoluteSizes :=
  fun s member => (read.data s member).absoluteSize

namespace Layout

variable {program : Program} {config : Config} {layout : Layout}

/-! ## The segments -/

/-- A segment ends in the address space, or right after it. -/
theorem Walk.next_le {α β : Type} {w : WordSize} {segment : Segment} {place : Placing α β}
    {index : Nat} {address : Int} {symbols : SymbolTable} {statements : List (Statement α)}
    {walked : Walked β} (steps : Walk w segment place index address symbols statements walked)
    (start : address ≤ Bits.patterns w.bits) : walked.next ≤ Bits.patterns w.bits := by
  induction steps with
  | nil => exact start
  | cons label placed ends others ih =>
    have below := (WordSize.holds_iff.mp ends).2
    exact ih (by omega)

theorem instruction_size_nonneg {w : WordSize} {statement : Statement Instruction}
    {address size record : Int} {location : Location}
    (placed : placeInstruction w address location statement = .ok (size, record)) :
    0 ≤ size := by
  obtain ⟨count, -, rfl, -⟩ := placeInstruction_eq_ok_iff.mp placed
  exact mul_nonneg (Int.natCast_nonneg count) w.bytes_pos.le

section

variable (absolute : program.AbsoluteSizes)
include absolute

theorem data_size_nonneg :
    ∀ statement ∈ program.data, ∀ {address location size record},
      placeData config.wordSize address location statement = .ok (size, record) → 0 ≤ size := by
  intro statement member address location size record placed
  obtain ⟨values, sized, -, -⟩ := placeData_eq_ok_iff.mp placed
  exact Element.size_nonneg sized (absolute statement member)

/-- The data elements of a layout lie in the address space. -/
theorem build_data_spans (built : build program config = .ok layout) :
    ∀ d ∈ layout.data, config.wordSize.Spans d.address d.size := by
  obtain ⟨data, code, steps, -, rfl⟩ := build_eq_ok_iff.mp built
  intro d member
  obtain ⟨k, found⟩ := List.mem_iff_getElem?.mp member
  obtain ⟨statement, size, -, placed, ends⟩ := steps.record placeData_records found
  obtain ⟨values, -, -, same⟩ := placeData_eq_ok_iff.mp placed
  have sizes : d.size = size := by rw [same]
  have base := (WordSize.holds_iff.mp config.dataBase_holds).1
  have start := (steps.le_start placeData_records (data_size_nonneg absolute)).2 d member
  rw [sizes]
  exact .of_end (base.trans start) ends

theorem instructionBase_nonneg {data : Walked PlacedData}
    (steps : Walk config.wordSize .data (placeData config.wordSize) 0 config.dataBase {}
      program.data data) : 0 ≤ config.instructionBase.getD data.next := by
  have grows := (steps.le_start placeData_records (data_size_nonneg absolute)).1
  exact config.instructionBase_nonneg (config.dataBase_nonneg.trans grows)

/-- The words that are reserved for a statement lie in the address space. -/
theorem build_code_spans (built : build program config = .ok layout) {k : Nat} {address : Int}
    (found : layout.instructionAddresses[k]? = some address) :
    ∃ statement count, program.instructions[k]? = some statement ∧
      statement.body.wordCount config.wordSize.bits (instructionLocation k) = .ok count ∧
      config.wordSize.Spans address (count * config.wordSize.bytes) := by
  obtain ⟨data, code, dataSteps, codeSteps, rfl⟩ := build_eq_ok_iff.mp built
  obtain ⟨statement, size, source, placed, ends⟩ :=
    codeSteps.record placeInstruction_records found
  have start := (codeSteps.le_start placeInstruction_records
    fun _ _ {_ _ _ _} => instruction_size_nonneg).2 address (List.mem_of_getElem? found)
  obtain ⟨count, counted, rfl, -⟩ := placeInstruction_eq_ok_iff.mp placed
  rw [Nat.zero_add] at counted
  exact ⟨statement, count, source, counted,
    .of_end ((instructionBase_nonneg absolute dataSteps).trans start) ends⟩

/-- The addresses of the table lie in the address space. -/
theorem build_symbols_hold (built : build program config = .ok layout) :
    ∀ s ∈ layout.symbols.symbols, config.wordSize.holds s.address = true := by
  intro s member
  rw [build_symbols built, List.mem_append, mem_labelSymbols, mem_labelSymbols] at member
  rcases member with ⟨k, statement, -, target, -⟩ | ⟨k, statement, -, target, -⟩
  · obtain ⟨d, inside, same⟩ := List.mem_map.mp (List.mem_of_getElem? target)
    rw [← same]
    exact (build_data_spans absolute built d inside).holds_start
  · obtain ⟨_, _, -, -, spans⟩ := build_code_spans absolute built target
    exact spans.holds_start

end

end Layout

end Assembler
