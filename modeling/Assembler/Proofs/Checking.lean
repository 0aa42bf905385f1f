import Assembler.Proofs.Reading
import Assembler.Proofs.Resolution

/-!
# Checked instructions

The literal of a machine instruction stands in a slot, a field of a width and a signedness.
For a form that was read, `Form.expand` fails exactly if the literal does not fit its slot. What
it yields is `Form.Checked`: numbers in the ranges of their fields, and labels where addresses
belong. A checked form can only fail to resolve because its label is not defined.
-/

namespace Assembler

/-! ## Slots and identifiers -/

/-- A literal and the field that it is written for. -/
structure Slot where
  literal : Literal
  width : Nat
  signedness : Signedness
  deriving DecidableEq, Repr

/-- Whether a literal fits the field that it is written for. -/
def Slot.fits (slot : Slot) : Bool := slot.literal.fits slot.width slot.signedness

/-- What is reported of a literal that does not fit. -/
def Slot.overflow (slot : Slot) : Overflow :=
  ⟨some slot.literal.text, slot.width, slot.signedness,
    slot.literal.accepted slot.width slot.signedness⟩

/-- The literal of a machine instruction. -/
def Form.slot? (bits : Nat) : Form → Option Slot
  | .immSigned _ _ _ (.numeral l) | .loadImm _ _ (.numeral l) | .loadStore _ _ (.numeral l) _ =>
    some ⟨l, 16, .signed⟩
  | .immUnsigned _ _ _ (.numeral l) | .setImm _ _ (.numeral l) => some ⟨l, 16, .unsigned⟩
  | .branch _ _ (.fixed (.numeral l)) | .jump _ (.fixed (.numeral l)) => some ⟨l, bits, .unsigned⟩
  | _ => none

/-- The label that a statement names. -/
def Form.identifier? : Form → Option Text
  | .branch _ _ target | .jump _ target | .loadAddress _ _ target => target.label?
  | _ => none

/-! ## Expansion -/

namespace Form

variable {form : Form} {forms : List Form} {w : WordSize} {location : Option Location}

theorem fit_eq_error_iff {l : Literal} (read : l.WasRead) {width : Nat} (field : FieldWidth width)
    {signedness : Signedness} {e : Error} :
    (Operand.numeral l).fit width signedness location = .error e ↔
      l.fits width signedness = false ∧
        e = .located location (.overflow (Slot.overflow ⟨l, width, signedness⟩)) :=
  interpretLiteral_eq_error_iff field read

/-- The expansion of a form that was read, and whose words were counted, fails exactly if its
literal does not fit. -/
theorem WasRead.expand_eq_error_iff (read : form.WasRead) {count : Nat}
    (counted : form.wordCount w.bits location = .ok count) {e : Error} :
    form.expand w.bits location = .error e ↔
      ∃ slot, form.slot? w.bits = some slot ∧ slot.fits = false ∧
        e = .located location (.overflow slot.overflow) := by
  have operands := read.operands
  cases form with
  | immSigned | immUnsigned | loadStore =>
    obtain ⟨l, rfl, wasRead⟩ := operands
    rw [expand_of_canonical rfl]
    simp only [checkOperands, Operand.checkImmediate, Outcome.map_eq_error_iff,
      fit_eq_error_iff wasRead FieldWidth.immediate, slot?, Option.some.injEq, exists_eq_left']
    rfl
  | loadImm | setImm =>
    obtain ⟨l, rfl, wasRead⟩ := operands
    rw [expand_of_canonical rfl]
    simp only [checkOperands, Operand.checkLoad, Operand.isNumber, if_true,
      Operand.checkImmediate, Outcome.map_eq_error_iff,
      fit_eq_error_iff wasRead FieldWidth.immediate, slot?, Option.some.injEq, exists_eq_left']
    rfl
  | branch | jump =>
    rw [expand_of_canonical rfl]
    rcases operands with ⟨name, rfl⟩ | ⟨_, rfl, l, rfl, wasRead⟩
    · simp [checkOperands, Operand.checkTarget, Except.map, slot?]
    · simp only [checkOperands, Operand.checkTarget, Outcome.map_eq_error_iff,
        fit_eq_error_iff wasRead w.fieldWidth, slot?, Option.some.injEq, exists_eq_left']
      rfl
  | loadWord rd imm =>
    obtain ⟨value, fit, -⟩ := Outcome.map_eq_ok_iff.mp counted
    simp [expand, fit, Except.map, slot?]
  | _ => simp [expand, checkOperands, Except.map, slot?]

end Form

/-! ## Checked forms -/

/-- A computed number of a range. -/
def Operand.NumberIn (o : Operand) (range : Range) : Prop :=
  ∃ n, o = .number n ∧ range.holds n = true

/-- The address of a label, or half of it, in a range. -/
def Operand.AddressIn (o : Operand) (range : Range) : Prop :=
  ∃ address, o = .address address ∧ range.holds address = true

/-- A machine instruction whose numbers are checked; its label is still to be looked up. -/
def Form.Checked (bits : Nat) : Form → Prop
  | .immSigned _ _ _ o | .loadStore _ _ o _ => o.NumberIn (Bits.signedRange Bits.immediateWidth)
  | .immUnsigned _ _ _ o => o.NumberIn (Bits.unsignedRange Bits.immediateWidth)
  | .loadImm _ _ o =>
    (∃ name, o = .label name) ∨ o.NumberIn (Bits.signedRange Bits.immediateWidth)
  | .setImm _ _ o =>
    (∃ name, o = .label name) ∨ o.NumberIn (Bits.unsignedRange Bits.immediateWidth)
  | .branch _ _ target | .jump _ target =>
    (∃ name, target = .label name) ∨
      ∃ value, target = .fixed value ∧ value.NumberIn (Bits.unsignedRange bits)
  | .push _ | .pop _ | .loadWord .. | .loadAddress .. => False
  | _ => True

namespace Operand

variable {o checked : Operand} {signedness : Signedness} {location : Option Location}

theorem IsNumeral.fit_range (read : o.IsNumeral) {width : Nat} (field : FieldWidth width)
    {value : Int} (fit : o.fit width signedness location = .ok value) :
    (signedness.range width).holds value = true := by
  obtain ⟨l, rfl, wasRead⟩ := read
  exact Literal.interpret_range wasRead.nonneg field.pos ((interpretLiteral_eq_ok_iff field).mp fit)

theorem IsNumeral.checkImmediate (read : o.IsNumeral)
    (done : o.checkImmediate signedness location = .ok checked) :
    checked.NumberIn (signedness.range Bits.immediateWidth) := by
  obtain ⟨value, fit, rfl⟩ := Outcome.map_eq_ok_iff.mp done
  exact ⟨value, rfl, read.fit_range .immediate fit⟩

theorem IsNumeral.checkLoad (read : o.IsNumeral)
    (done : o.checkLoad signedness location = .ok checked) :
    checked.NumberIn (signedness.range Bits.immediateWidth) := by
  obtain ⟨l, rfl, wasRead⟩ := read
  exact IsNumeral.checkImmediate ⟨l, rfl, wasRead⟩ done

theorem NumberIn.label?_eq_none {range : Range} (number : o.NumberIn range) : o.label? = none := by
  obtain ⟨n, rfl, -⟩ := number
  rfl

end Operand

/-- The stack pointer moves by an immediate. -/
theorem WordSize.bytes_immediate (w : WordSize) :
    (Bits.signedRange Bits.immediateWidth).holds w.bytes = true ∧
      (Bits.signedRange Bits.immediateWidth).holds (-w.bytes) = true := by
  cases w <;> decide

namespace Form

variable {form : Form} {forms : List Form} {w : WordSize} {location : Option Location}

/-- The upper half of a word fits an immediate. -/
theorem highHalf_holds {value : Int} (nonneg : 0 ≤ value) (below : value < Bits.patterns w.bits) :
    (Bits.unsignedRange Bits.immediateWidth).holds
      (Bits.split value Bits.immediateWidth).2 = true := by
  have small : value < Bits.patterns (Bits.immediateWidth + Bits.immediateWidth) :=
    below.trans_le (Bits.patterns_le_of_le w.fieldWidth.small)
  exact Bits.unsignedRange_holds_iff.mpr (Bits.split_high_range nonneg small)

theorem loadWordForms_checked (rd : Register) (value : Int) :
    ∀ f ∈ loadWordForms rd value w.bits,
      f.Checked w.bits ∧ f.label? = none ∧ f.opcode.instructionClass = f.shape := by
  unfold loadWordForms
  split
  · rename_i small
    simp only [List.forall_mem_singleton]
    exact ⟨.inr ⟨value, rfl, small⟩, rfl, rfl⟩
  · obtain ⟨nonneg, below⟩ := Bits.toUnsigned_range value w.bits
    simp only [List.forall_mem_cons]
    refine ⟨⟨.inr ⟨_, rfl, ?_⟩, rfl, rfl⟩, ⟨.inr ⟨_, rfl, highHalf_holds nonneg below⟩, rfl, rfl⟩,
      by simp⟩
    exact Bits.signedRange_holds_iff.mpr (Bits.signExtend_range _ FieldWidth.immediate.pos)

/-- Checking the operands of a machine instruction that was read. -/
theorem WasRead.checkOperands_checked {checked : Form} (read : form.WasRead)
    (canonical : form.isPseudo = false)
    (done : form.checkOperands w.bits location = .ok checked) :
    checked.Checked w.bits ∧ checked.label? = form.identifier? := by
  have operands := read.operands
  cases form with
  | immSigned | immUnsigned | loadStore =>
    obtain ⟨o, check, rfl⟩ := Outcome.map_eq_ok_iff.mp done
    exact ⟨operands.checkImmediate check, rfl⟩
  | loadImm | setImm =>
    obtain ⟨o, check, rfl⟩ := Outcome.map_eq_ok_iff.mp done
    have number := operands.checkLoad check
    exact ⟨.inr number, number.label?_eq_none⟩
  | branch | jump =>
    obtain ⟨o, check, rfl⟩ := Outcome.map_eq_ok_iff.mp done
    rcases operands with ⟨name, rfl⟩ | ⟨value, rfl, numeral⟩
    · cases check
      exact ⟨.inl ⟨name, rfl⟩, rfl⟩
    · obtain ⟨n, fit, rfl⟩ := Outcome.map_eq_ok_iff.mp check
      exact ⟨.inr ⟨_, rfl, n, rfl, numeral.fit_range w.fieldWidth fit⟩, rfl⟩
  | push | pop | loadWord | loadAddress => cases canonical
  | _ =>
    cases done
    exact ⟨trivial, rfl⟩

/-- What a form that was read expands to. -/
theorem WasRead.expand_checked (read : form.WasRead)
    (expanded : form.expand w.bits location = .ok forms) :
    ∀ f ∈ forms, f.Checked w.bits ∧ f.label? = form.identifier? ∧
      f.opcode.instructionClass = f.shape := by
  cases pseudo : form.isPseudo with
  | false =>
    rw [expand_of_canonical pseudo] at expanded
    obtain ⟨checked, done, rfl⟩ := Outcome.map_eq_ok_iff.mp expanded
    obtain ⟨ranges, label⟩ := read.checkOperands_checked pseudo done
    obtain ⟨opcode, shape⟩ := checkOperands_frame done
    simp only [List.forall_mem_singleton]
    exact ⟨ranges, label, by rw [opcode, shape, read.inClass]⟩
  | true =>
    cases form with
    | push rd =>
      cases expanded
      simp only [List.forall_mem_cons]
      exact ⟨⟨⟨0, rfl, by decide⟩, rfl, rfl⟩, ⟨⟨_, rfl, w.bytes_immediate.2⟩, rfl, rfl⟩, by simp⟩
    | pop rd =>
      cases expanded
      simp only [List.forall_mem_cons]
      exact ⟨⟨⟨_, rfl, w.bytes_immediate.1⟩, rfl, rfl⟩, ⟨⟨0, rfl, by decide⟩, rfl, rfl⟩, by simp⟩
    | loadWord rd imm =>
      obtain ⟨value, -, rfl⟩ := Outcome.map_eq_ok_iff.mp expanded
      rw [Int.toNat_natCast]
      exact loadWordForms_checked rd value
    | loadAddress op rd target =>
      obtain ⟨name, rfl⟩ := read.operands
      cases expanded
      simp [Checked, label?, identifier?, opcode, Opcode.instructionClass, shape]
    | _ => cases pseudo

/-! ## Resolution -/

open Resolution in
/-- The upper half of an address is there if the label is: it fits because the address does. -/
theorem resolveHigh_eq_error_iff {symbols : SymbolTable} {name : Text}
    (hold : ∀ s ∈ symbols.symbols, w.holds s.address = true) {e : Error} :
    resolveHigh symbols location (.label name) = .error e ↔
      name ∉ symbols.names ∧ e = .located location (symbols.undefined name) := by
  cases found : symbols.find? name with
  | none =>
    have absent := SymbolTable.find?_eq_none_iff.mp found
    have missing : symbols.lookup name location =
        .error (.located location (symbols.undefined name)) :=
      SymbolTable.lookup_eq_error_iff.mpr ⟨absent, rfl⟩
    simp [resolveHigh, missing, absent, eq_comm]
  | some s =>
    have defined := SymbolTable.find?_isSome_iff.mp ⟨s, found⟩
    obtain ⟨nonneg, below⟩ := WordSize.holds_iff.mp (hold s (SymbolTable.mem_of_find? found).1)
    have done : resolveHigh symbols location (.label name) =
        .ok (.address (Bits.split s.address Bits.immediateWidth).2) :=
      resolveHigh_label.mpr ⟨s, found, highHalf_holds nonneg below, rfl⟩
    simp [done, defined]

open Resolution in
/-- A checked form cannot be resolved only if its label is not defined. -/
theorem Checked.resolveForm_eq_error_iff {symbols : SymbolTable} (checked : form.Checked w.bits)
    (hold : ∀ s ∈ symbols.symbols, w.holds s.address = true) {e : Error} :
    resolveForm symbols location form = .error e ↔
      ∃ name, form.label? = some name ∧ name ∉ symbols.names ∧
        e = .located location (symbols.undefined name) := by
  cases form with
  | branch | jump =>
    rcases checked with ⟨name, rfl⟩ | ⟨_, rfl, n, rfl, -⟩
    · simp only [resolveForm, resolveTarget, Outcome.map_eq_error_iff,
        SymbolTable.lookup_eq_error_iff, label?, Operand.label?, Option.some.injEq,
        exists_eq_left']
    · simp [resolveForm, resolveTarget, Except.map, label?, Operand.label?]
  | loadImm =>
    rcases checked with ⟨name, rfl⟩ | ⟨n, rfl, -⟩
    · simp only [resolveForm, resolveLow, Outcome.map_eq_error_iff,
        SymbolTable.lookup_eq_error_iff, label?, Operand.label?, Option.some.injEq,
        exists_eq_left']
    · simp [resolveForm, resolveLow, finished, Except.map, label?, Operand.label?]
  | setImm =>
    rcases checked with ⟨name, rfl⟩ | ⟨n, rfl, -⟩
    · simp only [resolveForm, Outcome.map_eq_error_iff, resolveHigh_eq_error_iff hold, label?,
        Operand.label?, Option.some.injEq, exists_eq_left']
    · simp [resolveForm, resolveHigh, finished, Except.map, label?, Operand.label?]
  | push | pop | loadWord | loadAddress => exact checked.elim
  | _ => simp [resolveForm, label?]

end Form

end Assembler
