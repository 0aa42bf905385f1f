import Assembler.Proofs.Fitting
import Assembler.Proofs.Numeral
import Mathlib.Data.Int.ModEq

/-!
# Literals in fields of any width

A field takes a literal exactly if its number lies in an interval, which depends on the width, on
the signedness and on whether the literal is marked. The value is then the only number of the range
of the field that is congruent to the literal, so no bit is lost. A literal outside of the interval
is reported together with the interval, as far as both can be written: the ends of the interval of
a very wide field have too many digits.
-/

namespace Assembler

namespace Literal

/-- The numbers that a field takes from a literal: patterns if it is marked, and otherwise the
values of the field. -/
def interval (l : Literal) (width : Nat) (signedness : Signedness) : Range :=
  if l.isMarked then ⟨0, 2 ^ width - 1⟩
  else
    match signedness with
    | .signed => ⟨-2 ^ (width - 1), 2 ^ (width - 1) - 1⟩
    | .unsigned => ⟨0, 2 ^ width - 1⟩
    | .either => ⟨-2 ^ (width - 1), 2 ^ width - 1⟩

end Literal

/-- The values that a field gives. -/
def Signedness.valueRange (width : Nat) : Signedness → Range
  | .signed => ⟨-2 ^ (width - 1), 2 ^ (width - 1) - 1⟩
  | _ => ⟨0, 2 ^ width - 1⟩

variable {l : Literal} {width : Nat} {signedness : Signedness} {location : Option Location}

/-! ## Values -/

theorem Signedness.range_eq_valueRange (width : Nat) (signedness : Signedness) :
    signedness.range width = signedness.valueRange width := by
  cases signedness with
  | signed => exact Bits.signedRange_eq width
  | _ => exact Bits.unsignedRange_eq width

namespace Literal

theorem accepted_eq_interval (l : Literal) (width : Nat) (signedness : Signedness) :
    l.accepted width signedness = l.interval width signedness := by
  unfold accepted interval decimalRange
  cases signedness <;> simp only [Bits.unsignedRange_eq, Bits.signedRange_eq]

/-- A field that takes values of both kinds takes a literal at its pattern. -/
theorem interpret_either (nonneg : 0 ≤ l.magnitude) {value : Int}
    (interpreted : l.interpret width .either = .ok value) :
    value = Bits.toUnsigned l.number width := by
  have range := interpret_either_range nonneg interpreted
  unfold interpret at interpreted
  unfold number
  cases marked : l.isMarked with
  | true =>
    simp only [marked, if_true] at interpreted ⊢
    split at interpreted
    · cases interpreted
    · have same : l.magnitude = value := by simpa using interpreted
      rw [same]
      exact (Int.emod_eq_of_lt range.1 range.2).symm
  | false =>
    simp only [marked, Bool.false_eq_true, if_false] at interpreted ⊢
    split at interpreted
    · simpa using interpreted.symm
    · cases interpreted

/-- The value of a literal has the bits of the literal. -/
theorem interpret_modEq (nonneg : 0 ≤ l.magnitude) (pos : 0 < width) {value : Int}
    (interpreted : l.interpret width signedness = .ok value) :
    value ≡ l.number [ZMOD 2 ^ width] := by
  rw [← Bits.patterns_eq]
  cases signedness with
  | signed =>
    rw [interpret_signed pos interpreted]
    exact Bits.toUnsigned_signExtend l.number width
  | unsigned => rw [interpret_unsigned interpreted]
  | either =>
    rw [interpret_either nonneg interpreted]
    exact Int.mod_modEq l.number _

end Literal

/-- The range of a field holds one number of each residue. -/
theorem Signedness.eq_of_modEq (pos : 0 < width) {a b : Int} (same : a ≡ b [ZMOD 2 ^ width])
    (left : (signedness.valueRange width).holds a = true)
    (right : (signedness.valueRange width).holds b = true) : a = b := by
  have double : (2 : Int) ^ width = 2 * 2 ^ (width - 1) := by
    rw [← pow_succ', Nat.sub_add_cancel pos]
  have divides : (2 : Int) ^ width ∣ b - a := same.dvd
  have close : |b - a| < 2 ^ width := by
    rw [abs_lt]
    cases signedness <;> simp only [valueRange, Range.holds_iff] at left right <;> omega
  have zero := Int.eq_zero_of_abs_lt_dvd divides close
  omega

theorem Literal.interpret_eq_ok_iff (nonneg : 0 ≤ l.magnitude) (pos : 0 < width) {value : Int} :
    l.interpret width signedness = .ok value ↔
      (l.interval width signedness).holds l.number = true ∧ value ≡ l.number [ZMOD 2 ^ width] ∧
        (signedness.valueRange width).holds value = true := by
  have facts : ∀ {r}, l.interpret width signedness = .ok r →
      r ≡ l.number [ZMOD 2 ^ width] ∧ (signedness.valueRange width).holds r = true := by
    intro r interpreted
    rw [← Signedness.range_eq_valueRange]
    exact ⟨interpret_modEq nonneg pos interpreted, interpret_range nonneg pos interpreted⟩
  rw [← accepted_eq_interval]
  constructor
  · intro interpreted
    exact ⟨(interpret_isOk_iff nonneg).mp ⟨value, interpreted⟩, facts interpreted⟩
  · intro conditions
    obtain ⟨fits, same, inside⟩ := conditions
    obtain ⟨r, interpreted⟩ := (interpret_isOk_iff nonneg).mpr fits
    obtain ⟨rSame, rInside⟩ := facts interpreted
    rw [interpreted, Signedness.eq_of_modEq pos (rSame.trans same.symm) rInside inside]

/-! ## Messages -/

namespace Text

/-- The exponent of the largest power of two that can be written. -/
def maxExponent : Nat := 14284

theorem two_pow_lt_limit {exponent : Nat} (small : exponent ≤ maxExponent) :
    2 ^ exponent < 10 ^ maxDigits := by
  have last : 2 ^ maxExponent < 10 ^ maxDigits := by decide +kernel
  exact Nat.lt_of_le_of_lt (Nat.pow_le_pow_right (by omega) small) last

theorem limit_lt_two_pow {exponent : Nat} (large : maxExponent < exponent) :
    10 ^ maxDigits < 2 ^ exponent := by
  have next : 10 ^ maxDigits < 2 ^ (maxExponent + 1) := by decide +kernel
  exact Nat.lt_of_lt_of_le next (Nat.pow_le_pow_right (by omega) large)

theorem isWritable_neg_two_pow (exponent : Nat) :
    isWritable (-2 ^ exponent) = true ↔ exponent ≤ maxExponent := by
  have size : (-2 ^ exponent : Int).natAbs = 2 ^ exponent := by
    rw [Int.natAbs_neg, Int.natAbs_pow]
    rfl
  rw [isWritable_iff, size]
  constructor
  · intro below
    by_contra large
    have above := limit_lt_two_pow (Nat.lt_of_not_le large)
    omega
  · intro small
    exact two_pow_lt_limit small

theorem isWritable_two_pow_sub_one (exponent : Nat) :
    isWritable (2 ^ exponent - 1) = true ↔ exponent ≤ maxExponent := by
  have size : (2 ^ exponent - 1 : Int).natAbs = 2 ^ exponent - 1 := by
    have pos : 0 < 2 ^ exponent := Nat.two_pow_pos exponent
    have cast : (2 ^ exponent : Int) = (2 ^ exponent : Nat) := by norm_cast
    rw [cast]
    omega
  rw [isWritable_iff, size]
  constructor
  · intro below
    by_contra large
    have above := limit_lt_two_pow (Nat.lt_of_not_le large)
    omega
  · intro small
    exact Nat.lt_of_le_of_lt (Nat.sub_le _ 1) (two_pow_lt_limit small)

end Text

namespace Literal

/-- The most bits of a field whose interval can be written. -/
def widestShown (l : Literal) (signedness : Signedness) : Nat :=
  if l.isMarked = false ∧ signedness = .signed then Text.maxExponent + 1 else Text.maxExponent

/-- Whether a message can show a literal and the interval of the field: a literal that has no text
must not have too many decimal digits, and neither must the ends of the interval. -/
structure Reportable (l : Literal) (width : Nat) (signedness : Signedness) : Prop where
  literal : l.text = [] → l.base = .dec → Text.isWritable l.magnitude = true
  interval : width ≤ l.widestShown signedness

theorem isWritable_interval_iff (pos : 0 < width) :
    (Text.isWritable (l.interval width signedness).low &&
        Text.isWritable (l.interval width signedness).high) = true ↔
      width ≤ l.widestShown signedness := by
  have zero : Text.isWritable 0 = true := Text.isWritable_iff.mpr (Nat.pow_pos (by decide))
  rw [Bool.and_eq_true]
  unfold interval widestShown
  cases marked : l.isMarked with
  | true => simp [zero, Text.isWritable_two_pow_sub_one]
  | false =>
    cases signedness with
    | unsigned => simp [zero, Text.isWritable_two_pow_sub_one]
    | signed =>
      simp only [Bool.false_eq_true, if_false, Text.isWritable_neg_two_pow,
        Text.isWritable_two_pow_sub_one, and_self, if_true]
      omega
    | either =>
      simp only [Bool.false_eq_true, if_false, Text.isWritable_neg_two_pow,
        Text.isWritable_two_pow_sub_one, reduceCtorEq, and_false]
      omega

/-- The message about an overflow can be written exactly if all that it shows can be. -/
theorem isWritable_overflow_iff (pos : 0 < width) :
    (Overflow.mk l.spelling? width signedness (l.interval width signedness)).isWritable = true ↔
      l.Reportable width signedness := by
  have spelled : l.spelling?.isSome = true ↔
      (l.text = [] → l.base = .dec → Text.isWritable l.magnitude = true) := by
    rw [← Option.isNone_eq_false_iff, Bool.eq_false_iff, Ne, Option.isNone_iff_eq_none,
      spelling?_eq_none_iff]
    simp
  rw [Overflow.isWritable, Bool.and_assoc, Bool.and_eq_true, spelled, isWritable_interval_iff pos]
  constructor
  · intro both
    exact ⟨both.1, both.2⟩
  · intro reportable
    exact ⟨reportable.literal, reportable.interval⟩

/-! ## Fields -/

/-- The most bits of a field that `memory` bits can hold; a sign bit that is looked at is not
counted. -/
def widestHeld (l : Literal) (signedness : Signedness) (memory : Nat) : Nat :=
  heldBits memory + (l.needsSignBit signedness).toNat

/-- What a field makes of a literal. Its number has to lie in the interval, and then the value is
the number of the range of the field that has the same bits. -/
structure Interprets (l : Literal) (width : Nat) (signedness : Signedness)
    (location : Option Location) (memory : Nat) : Prop where
  accepts : ∀ value, interpretLiteral l width signedness location memory = .ok value ↔
    (l.interval width signedness).holds l.number = true ∧ value ≡ l.number [ZMOD 2 ^ width] ∧
      (signedness.valueRange width).holds value = true
  reports : (l.interval width signedness).holds l.number = false → l.Reportable width signedness →
    interpretLiteral l width signedness location memory =
      .error (.located location
        (.overflow ⟨l.spelling?, width, signedness, l.interval width signedness⟩))
  faults : (l.interval width signedness).holds l.number = false →
    ¬ l.Reportable width signedness →
      interpretLiteral l width signedness location memory = .error (.fault .numberTooLong)

variable {memory : Nat}

theorem interpretLiteral_of_held (pos : 0 < width) (held : width ≤ l.widestHeld signedness memory) :
    interpretLiteral l width signedness location memory =
      (l.interpret width signedness).mapError (Error.overflow location) := by
  simp only [interpretLiteral, widthFor_of_held pos held]

theorem interprets_of_held (nonneg : 0 ≤ l.magnitude) (pos : 0 < width)
    (held : width ≤ l.widestHeld signedness memory) :
    l.Interprets width signedness location memory := by
  have refused : (l.interval width signedness).holds l.number = false →
      interpretLiteral l width signedness location memory =
        .error (.overflow location
          ⟨l.spelling?, width, signedness, l.interval width signedness⟩) := by
    intro outside
    rw [interpretLiteral_of_held pos held]
    refine Outcome.mapError_eq_error_iff.mpr ⟨_, ?_, rfl⟩
    rw [interpret_eq_error_iff nonneg, fits, accepted_eq_interval]
    exact ⟨outside, rfl⟩
  refine ⟨?_, ?_, ?_⟩
  · intro value
    rw [interpretLiteral_of_held pos held, Outcome.mapError_eq_ok_iff]
    exact interpret_eq_ok_iff nonneg pos
  · intro outside reportable
    rw [refused outside, Error.overflow, if_pos ((isWritable_overflow_iff pos).mpr reportable)]
  · intro outside silent
    have unwritable := fun writable => silent ((isWritable_overflow_iff pos).mp writable)
    rw [refused outside, Error.overflow, if_neg unwritable]

end Literal

/-- Every literal in every field: it is taken at the value with its bits if it lies in the interval,
and otherwise reported with the interval if the message can be written. Only a field that is too
wide for memory is not looked at, however much memory there is. -/
theorem interpretLiteral_exact (nonneg : 0 ≤ l.magnitude) (pos : 1 ≤ width)
    (signedness : Signedness) (location : Option Location) (memory : Nat) :
    (width ≤ l.widestHeld signedness memory → l.Interprets width signedness location memory) ∧
      (l.widestHeld signedness memory < width → ∃ fault,
        (fault = .outOfMemory ∨ fault = .integerTooLarge) ∧
          interpretLiteral l width signedness location memory = .error (.fault fault)) := by
  constructor
  · intro held
    exact Literal.interprets_of_held nonneg pos held
  · intro above
    obtain ⟨fault, kind, failed⟩ := widthFor_of_not_held above
    exact ⟨fault, kind, by simp only [interpretLiteral, failed]⟩

/-- All bits of a signed field. -/
def Literal.allOnes : Literal := ⟨.hex, 0xFFFF, false, "0xFFFF"⟩

theorem interpretLiteral_exact_allOnes :
    Literal.allOnes.Interprets 16 .signed none usualMemory ∧
      interpretLiteral .allOnes 16 .signed none = .ok (-1) := by
  have nonneg : 0 ≤ Literal.allOnes.magnitude := by decide
  have interprets : Literal.allOnes.Interprets 16 .signed none usualMemory :=
    (interpretLiteral_exact nonneg (by decide) .signed none usualMemory).1 (by decide)
  exact ⟨interprets, (interprets.accepts (-1)).mpr (by decide)⟩

/-- A negative number. -/
def Literal.minusOne : Literal := ⟨.dec, 1, true, "-1"⟩

/-- A negative number does not fit an unsigned field, yet in a wide one it is not reported as an
overflow: the end of the interval has too many digits. -/
theorem not_overflow_of_wide_field :
    (Literal.minusOne.interval 14285 .unsigned).holds Literal.minusOne.number = false ∧
      ∀ o, interpretLiteral .minusOne 14285 .unsigned none ≠
        .error (.located none (.overflow o)) := by
  have outside : (Literal.minusOne.interval 14285 .unsigned).holds Literal.minusOne.number =
      false := by
    rw [Bool.eq_false_iff, Ne, Range.holds_iff]
    intro inside
    exact absurd inside.1 (by decide)
  have silent : ¬ Literal.minusOne.Reportable 14285 .unsigned := by
    intro reportable
    exact absurd reportable.interval (by decide)
  have held : 14285 ≤ Literal.minusOne.widestHeld .unsigned usualMemory := by decide
  have interprets : Literal.minusOne.Interprets 14285 .unsigned none usualMemory :=
    Literal.interprets_of_held (by decide) (by decide) held
  have faulted : interpretLiteral .minusOne 14285 .unsigned none = .error (.fault .numberTooLong) :=
    interprets.faults outside silent
  refine ⟨outside, ?_⟩
  intro o failed
  rw [faulted] at failed
  cases failed

end Assembler
