import Assembler.Fitting
import Assembler.Machine.WordSize
import Assembler.Proofs.Literal
import Mathlib.Data.List.Forall2

/-!
# Laws of fields

The fields of the machine have from 1 to 32 bits. In them no check of a width fails, and a value
that does not fit is reported with a text, so an error is always a located overflow. Outside of
these widths, and for operands that are no numbers, other errors are possible.
-/

namespace Assembler

/-- The widths of the fields of the machine. -/
structure FieldWidth (width : Nat) : Prop where
  pos : 0 < width
  small : width ≤ 32

theorem FieldWidth.immediate : FieldWidth Bits.immediateWidth := ⟨by decide, by decide⟩

theorem WordSize.fieldWidth (w : WordSize) : FieldWidth w.bits := by
  cases w <;> exact ⟨by decide, by decide⟩

theorem ListKind.fieldWidth (kind : ListKind) : FieldWidth (8 * kind.width) := by
  cases kind <;> exact ⟨by decide, by decide⟩

variable {width : Nat} {signedness : Signedness} {location : Option Location}

/-! ## Widths -/

/-- The most bits of a number on a machine with `memory` bits. -/
def heldBits (memory : Nat) : Nat := min memory maxIntegerBits

section Memory

variable {memory : Nat}

theorem shiftCount_of_held {count : Int} (nonneg : 0 ≤ count) (held : count ≤ heldBits memory) :
    shiftCount count memory = .ok count.toNat := by
  have notNegative : ¬ count < 0 := by omega
  have notHuge : ¬ maxIntegerBits < count := by
    simp only [heldBits] at held
    omega
  have notLarge : ¬ memory < count := by
    simp only [heldBits] at held
    omega
  rw [shiftCount, if_neg notNegative, if_neg notHuge, if_neg notLarge]

/-- A width is found to be in order if memory can hold the field; a sign bit is not counted. -/
theorem widthFor_of_held (pos : 0 < width) {signed : Bool}
    (held : width ≤ heldBits memory + signed.toNat) : widthFor signed width memory = .ok width := by
  apply Outcome.mapError_eq_ok_iff.mpr
  cases signed with
  | false =>
    simp only [Bool.toNat_false, Nat.add_zero] at held
    simp only [fieldWidth, Bool.false_eq_true, if_false]
    rw [shiftCount_of_held (by omega) (by omega), Int.toNat_natCast]
  | true =>
    simp only [Bool.toNat_true] at held
    simp only [signedWidth, if_true]
    rw [shiftCount_of_held (by omega) (by omega)]
    simp [Except.map, Nat.sub_add_cancel pos]

theorem shiftCount_of_not_held {count : Int} (above : heldBits memory < count) :
    ∃ fault, (fault = .outOfMemory ∨ fault = .integerTooLarge) ∧
      shiftCount count memory = .error fault := by
  have nonneg : ¬ count < 0 := by omega
  unfold shiftCount
  rw [if_neg nonneg]
  by_cases huge : maxIntegerBits < count
  · exact ⟨.integerTooLarge, Or.inr rfl, by rw [if_pos huge]⟩
  · have large : memory < count := by
      simp only [heldBits] at above
      omega
    exact ⟨.outOfMemory, Or.inl rfl, by rw [if_neg huge, if_pos large]⟩

/-- A field that memory cannot hold is refused. -/
theorem widthFor_of_not_held {signed : Bool} (above : heldBits memory + signed.toNat < width) :
    ∃ fault, (fault = .outOfMemory ∨ fault = .integerTooLarge) ∧
      widthFor signed width memory = .error (.fault fault) := by
  cases signed with
  | false =>
    simp only [Bool.toNat_false, Nat.add_zero] at above
    obtain ⟨fault, kind, failed⟩ := shiftCount_of_not_held (Int.ofNat_lt.mpr above)
    refine ⟨fault, kind, ?_⟩
    simp only [widthFor, fieldWidth, Bool.false_eq_true, if_false, failed]
    rfl
  | true =>
    simp only [Bool.toNat_true] at above
    have below : (heldBits memory : Int) < (width : Int) - 1 := by omega
    obtain ⟨fault, kind, failed⟩ := shiftCount_of_not_held below
    refine ⟨fault, kind, ?_⟩
    simp only [widthFor, signedWidth, if_true, failed]
    rfl

end Memory

theorem widthFor_of_fieldWidth (field : FieldWidth width) (signed : Bool) :
    widthFor signed width = .ok width := by
  apply widthFor_of_held field.pos
  have small := field.small
  simp only [heldBits, usualMemory, maxIntegerBits]
  omega

theorem Bits.patterns_le_of_le {small large : Nat} (le : small ≤ large) :
    patterns small ≤ patterns large := by
  simp only [patterns]
  exact_mod_cast Nat.pow_le_pow_right (by decide) le

/-! ## Overflows can be written -/

theorem Text.isWritable_of_small {n : Int} (low : -Bits.patterns 32 ≤ n)
    (high : n ≤ Bits.patterns 32) : Text.isWritable n = true := by
  have bound : n.natAbs ≤ 10 ^ 10 := by
    have : Bits.patterns 32 = 4294967296 := by decide
    omega
  have grows : ∀ digits, 10 < digits → 10 ^ 10 < Nat.pow 10 digits :=
    fun digits more => Nat.pow_lt_pow_right (by decide) more
  have many : 10 < Text.maxDigits := by decide
  unfold Text.isWritable Text.digitLimit
  exact decide_eq_true (Nat.lt_of_le_of_lt bound (grows Text.maxDigits many))

theorem Error.overflow_of_small {o : Overflow} (spelled : o.text.isSome = true)
    (low : -Bits.patterns 32 ≤ o.range.low) (ordered : o.range.low ≤ o.range.high)
    (high : o.range.high ≤ Bits.patterns 32) :
    Error.overflow location o = .located location (.overflow o) := by
  have lowWritable : Text.isWritable o.range.low = true :=
    Text.isWritable_of_small low (ordered.trans high)
  have highWritable : Text.isWritable o.range.high = true :=
    Text.isWritable_of_small (low.trans ordered) high
  simp [Error.overflow, Overflow.isWritable, spelled, lowWritable, highWritable]

/-- The ranges of the fields of the machine are small. -/
theorem Literal.decimalRange_small (field : FieldWidth width) (signedness : Signedness) :
    -Bits.patterns 32 ≤ (decimalRange width signedness).low ∧
      (decimalRange width signedness).low ≤ (decimalRange width signedness).high ∧
      (decimalRange width signedness).high ≤ Bits.patterns 32 := by
  have whole := Bits.patterns_le_of_le field.small
  have half := Bits.patterns_le_of_le (Nat.sub_le width 1)
  have pos := Bits.patterns_pos (width - 1)
  cases signedness <;> simp only [decimalRange, Bits.signedRange, Bits.unsignedRange] <;> omega

theorem Literal.accepted_small (field : FieldWidth width) (l : Literal)
    (signedness : Signedness) :
    -Bits.patterns 32 ≤ (l.accepted width signedness).low ∧
      (l.accepted width signedness).low ≤ (l.accepted width signedness).high ∧
      (l.accepted width signedness).high ≤ Bits.patterns 32 := by
  unfold accepted
  split
  · exact decimalRange_small field .unsigned
  · exact decimalRange_small field signedness

/-! ## Literals in fields -/

theorem interpretLiteral_eq (field : FieldWidth width) (l : Literal) :
    interpretLiteral l width signedness location =
      (l.interpret width signedness).mapError (Error.overflow location) := by
  simp [interpretLiteral, widthFor_of_fieldWidth field]

theorem interpretLiteral_eq_ok_iff (field : FieldWidth width) {l : Literal} {value : Int} :
    interpretLiteral l width signedness location = .ok value ↔
      l.interpret width signedness = .ok value := by
  rw [interpretLiteral_eq field, Outcome.mapError_eq_ok_iff]

/-- A literal that was read and does not fit is reported at its location, by its text. -/
theorem interpretLiteral_eq_error_iff (field : FieldWidth width) {l : Literal} (read : l.WasRead)
    {e : Error} :
    interpretLiteral l width signedness location = .error e ↔
      l.fits width signedness = false ∧
        e = .located location
          (.overflow ⟨some l.text, width, signedness, l.accepted width signedness⟩) := by
  have small := Literal.accepted_small field l signedness
  have located : Error.overflow location
      ⟨some l.text, width, signedness, l.accepted width signedness⟩ =
        .located location
          (.overflow ⟨some l.text, width, signedness, l.accepted width signedness⟩) :=
    Error.overflow_of_small rfl small.1 small.2.1 small.2.2
  rw [interpretLiteral_eq field, Outcome.mapError_eq_error_iff, ← located]
  simp only [Literal.interpret_eq_error_iff read.nonneg, read.spelling]
  constructor
  · rintro ⟨o, ⟨misfit, rfl⟩, same⟩
    exact ⟨misfit, same⟩
  · rintro ⟨misfit, same⟩
    exact ⟨_, ⟨misfit, rfl⟩, same⟩

/-! ## Computed values in fields -/

theorem requireFitsAt_eq_ok_iff (field : FieldWidth width) {value result : Int} {name : Text} :
    requireFitsAt value width signedness location name = .ok result ↔
      (signedness.range width).holds value = true ∧ result = value := by
  simp only [requireFitsAt, widthFor_of_fieldWidth field, Outcome.mapError_eq_ok_iff]
  unfold requireFits
  split
  · rename_i inside
    simp [inside, eq_comm]
  · rename_i outside
    simp [outside]

/-- A computed value that does not fit is reported by its name. -/
theorem requireFitsAt_unsigned_eq_error_iff (field : FieldWidth width) {value : Int}
    {name : Text} (named : name ≠ []) {e : Error} :
    requireFitsAt value width .unsigned location name = .error e ↔
      (Bits.unsignedRange width).holds value = false ∧
        e = .located location
          (.overflow ⟨some name, width, .unsigned, Bits.unsignedRange width⟩) := by
  have small := Literal.decimalRange_small field .unsigned
  have located : Error.overflow location ⟨some name, width, .unsigned, Bits.unsignedRange width⟩ =
      .located location (.overflow ⟨some name, width, .unsigned, Bits.unsignedRange width⟩) :=
    Error.overflow_of_small rfl small.1 small.2.1 small.2.2
  simp only [requireFitsAt, widthFor_of_fieldWidth field, Outcome.mapError_eq_error_iff,
    ← located]
  unfold requireFits
  simp only [named, if_false, Signedness.range]
  split
  · rename_i inside
    simp [inside]
  · rename_i outside
    simp only [Except.error.injEq, outside, true_and]
    constructor
    · rintro ⟨o, rfl, same⟩
      exact same
    · intro same
      exact ⟨_, rfl, same⟩

/-! ## Operands in fields -/

/-- Only numbers fit a field: literals that fit, and computed numbers of the range. -/
theorem Operand.fit_eq_ok_iff (field : FieldWidth width) {o : Operand} {value : Int} :
    o.fit width signedness location = .ok value ↔
      (∃ l, o = .numeral l ∧ l.interpret width signedness = .ok value) ∨
        (o = .number value ∧ (signedness.range width).holds value = true) := by
  cases o with
  | numeral l => simp [Operand.fit, interpretLiteral_eq_ok_iff field]
  | number n =>
    simp only [Operand.fit, requireFitsAt_eq_ok_iff field]
    constructor
    · rintro ⟨inside, rfl⟩
      exact .inr ⟨rfl, inside⟩
    · rintro (⟨l, absurd, _⟩ | ⟨same, inside⟩)
      · cases absurd
      · cases same
        exact ⟨inside, rfl⟩
  | fixed | label | address => simp [Operand.fit, widthFor_of_fieldWidth field]

/-! ## Data -/

namespace Element

variable {kind : ListKind}

theorem valuesIn_eq_ok_iff {operands : List Operand} {values : List Int} :
    valuesIn kind location operands = .ok values ↔
      List.Forall₂ (fun o value => valueIn kind location o = .ok value) operands values := by
  induction operands generalizing values with
  | nil => simp [valuesIn, eq_comm]
  | cons operand rest ih =>
    simp only [valuesIn, List.forall₂_cons_left_iff]
    cases first : valueIn kind location operand with
    | error e => simp
    | ok value =>
      cases others : valuesIn kind location rest with
      | error e => simp [← ih, others]
      | ok tail =>
        simp only [← ih, others, Except.ok.injEq]
        constructor
        · rintro rfl
          exact ⟨value, tail, rfl, rfl, rfl⟩
        · rintro ⟨_, _, rfl, rfl, rfl⟩
          rfl

/-- The size of a list is the width of its kind times its length. -/
theorem size_list {operands : List Operand} {bits size : Int}
    (sized : (list kind operands).size bits location = .ok size) :
    size = kind.width * operands.length := by
  simpa [Element.size, eq_comm] using sized

end Element

end Assembler
