import Assembler.Literal
import Assembler.Proofs.Bits
import Assembler.Proofs.Encoding
import Assembler.Proofs.Outcome

/-!
# Laws of literals

What a literal stands for is said without the code that checks it: a marked literal is its
magnitude, a decimal one its signed value. `Literal.fits` compares that number with the range of
the field, and `interpret` succeeds exactly if it lies there. A literal that was read has a
magnitude that is not negative and the text of a string, which is not empty.
-/

namespace Assembler

/-- In a field of one kind, a computed number is held against the range of decimal literals. -/
theorem Signedness.range_eq_decimalRange {signedness : Signedness} (single : signedness ≠ .either)
    (width : Nat) : signedness.range width = Literal.decimalRange width signedness := by
  cases signedness with
  | either => exact absurd rfl single
  | _ => rfl

namespace Literal

/-- The number that a literal stands for, before a field takes it. -/
def number (l : Literal) : Int := if l.isMarked then l.magnitude else l.signedValue

/-- The numbers that a field takes from a literal: bit patterns if it is marked. -/
def accepted (l : Literal) (width : Nat) (signedness : Signedness) : Range :=
  if l.isMarked then Bits.unsignedRange width else decimalRange width signedness

/-- Whether a literal fits a field. -/
def fits (l : Literal) (width : Nat) (signedness : Signedness) : Bool :=
  (l.accepted width signedness).holds l.number

/-- The magnitude of a literal is an absolute value: its sign stands apart. No text is read as
another literal, but a literal that is put together by hand may have a negative magnitude. -/
def Absolute (l : Literal) : Prop := 0 ≤ l.magnitude

instance (l : Literal) : Decidable l.Absolute := inferInstanceAs (Decidable (0 ≤ l.magnitude))

/-- What reading a text guarantees of a literal. -/
structure WasRead (l : Literal) : Prop where
  nonneg : l.Absolute
  spelled : l.text ≠ []
  whole : l.text.Whole

theorem signedValue_ofInt (n : Int) : (ofInt n).signedValue = n := by
  unfold signedValue ofInt
  by_cases negative : n < 0
  · simp only [negative, decide_true, if_true]
    omega
  · simp only [negative, decide_false, Bool.false_eq_true, if_false]
    omega

/-! ## Interpretation -/

/-- A literal that does not fit is reported with its spelling and the range of the field. -/
theorem interpret_eq_error_iff {l : Literal} (nonneg : 0 ≤ l.magnitude) {width : Nat}
    {signedness : Signedness} {o : Overflow} :
    l.interpret width signedness = .error o ↔
      l.fits width signedness = false ∧
        o = ⟨l.spelling?, width, signedness, l.accepted width signedness⟩ := by
  unfold interpret fits accepted number
  cases marked : l.isMarked with
  | true =>
    have low : (Bits.unsignedRange width).low ≤ l.magnitude := nonneg
    by_cases above : (Bits.unsignedRange width).high < l.magnitude
    · have outside : ¬ l.magnitude ≤ (Bits.unsignedRange width).high := Int.not_le.mpr above
      simp only [Range.holds, above, outside, if_true, decide_false, Bool.and_false, true_and,
        Except.error.injEq]
      exact eq_comm
    · have below : l.magnitude ≤ (Bits.unsignedRange width).high := Int.not_lt.mp above
      by_cases signed : signedness = .signed <;> simp [Range.holds, above, below, low, signed]
  | false =>
    by_cases inside : (decimalRange width signedness).holds l.signedValue = true
    · by_cases either : signedness = .either <;> simp_all
    · simp only [inside, Bool.false_eq_true, if_false, true_and, Except.error.injEq]
      exact eq_comm

/-- A field takes exactly the literals that fit it. -/
theorem interpret_isOk_iff {l : Literal} (nonneg : 0 ≤ l.magnitude) {width : Nat}
    {signedness : Signedness} :
    (∃ value, l.interpret width signedness = .ok value) ↔ l.fits width signedness = true := by
  constructor
  · rintro ⟨value, interpreted⟩
    by_contra misfit
    have failed := (interpret_eq_error_iff nonneg).mpr ⟨Bool.eq_false_iff.mpr misfit, rfl⟩
    rw [interpreted] at failed
    cases failed
  · intro fit
    rcases Outcome.isOk_or_isError (l.interpret width signedness) with found | ⟨o, failed⟩
    · exact found
    · have misfit := ((interpret_eq_error_iff nonneg).mp failed).1
      rw [fit] at misfit
      cases misfit

/-- An unsigned field takes a literal at its own number. -/
theorem interpret_unsigned {l : Literal} {width : Nat} {value : Int}
    (interpreted : l.interpret width .unsigned = .ok value) : value = l.number := by
  unfold interpret at interpreted
  unfold number
  cases marked : l.isMarked with
  | true =>
    simp only [marked, if_true] at interpreted
    split at interpreted
    · cases interpreted
    · simpa using interpreted.symm
  | false =>
    simp only [marked, Bool.false_eq_true, if_false] at interpreted
    split at interpreted
    · simpa using interpreted.symm
    · cases interpreted

/-- A signed field takes a literal at its two's complement, which a decimal one already is. -/
theorem interpret_signed {l : Literal} {width : Nat} (pos : 0 < width) {value : Int}
    (interpreted : l.interpret width .signed = .ok value) :
    value = Bits.signExtend l.number width := by
  unfold interpret at interpreted
  unfold number
  cases marked : l.isMarked with
  | true =>
    simp only [marked, if_true] at interpreted
    split at interpreted
    · cases interpreted
    · simpa using interpreted.symm
  | false =>
    simp only [marked, Bool.false_eq_true, if_false] at interpreted
    split at interpreted
    · rename_i inside
      have same : l.signedValue = value := by simpa using interpreted
      rw [if_neg Bool.false_ne_true, Bits.signExtend_eq_self pos inside, same]
    · cases interpreted

/-- The value of a literal in an unsigned field is a pattern of the field. -/
theorem interpret_unsigned_range {l : Literal} (nonneg : 0 ≤ l.magnitude) {width : Nat}
    {value : Int} (interpreted : l.interpret width .unsigned = .ok value) :
    0 ≤ value ∧ value < Bits.patterns width := by
  have fit := (interpret_isOk_iff nonneg).mp ⟨value, interpreted⟩
  rw [interpret_unsigned interpreted]
  have same : l.accepted width .unsigned = Bits.unsignedRange width := by
    unfold accepted decimalRange
    split <;> rfl
  rw [fits, same] at fit
  exact Bits.unsignedRange_holds_iff.mp fit

/-- The value of a literal in a signed field lies in the signed range. -/
theorem interpret_signed_range {l : Literal} {width : Nat} (pos : 0 < width) {value : Int}
    (interpreted : l.interpret width .signed = .ok value) :
    -Bits.patterns (width - 1) ≤ value ∧ value < Bits.patterns (width - 1) := by
  unfold interpret at interpreted
  cases marked : l.isMarked with
  | true =>
    simp only [marked, if_true] at interpreted
    split at interpreted
    · cases interpreted
    · cases interpreted
      exact Bits.signExtend_range l.magnitude pos
  | false =>
    simp only [marked, Bool.false_eq_true, if_false] at interpreted
    split at interpreted
    · rename_i inside
      cases interpreted
      exact Bits.signedRange_holds_iff.mp inside
    · cases interpreted

/-- A field that takes values of both kinds takes them as patterns. -/
theorem interpret_either_range {l : Literal} (nonneg : 0 ≤ l.magnitude) {width : Nat}
    {value : Int} (interpreted : l.interpret width .either = .ok value) :
    0 ≤ value ∧ value < Bits.patterns width := by
  unfold interpret at interpreted
  cases marked : l.isMarked with
  | true =>
    simp only [marked, if_true] at interpreted
    split at interpreted
    · cases interpreted
    · rename_i below
      have same : l.magnitude = value := by simpa using interpreted
      simp only [Bits.unsignedRange] at below
      omega
  | false =>
    simp only [marked, Bool.false_eq_true, if_false] at interpreted
    split at interpreted
    · have same : Bits.toUnsigned l.signedValue width = value := by simpa using interpreted
      rw [← same]
      exact Bits.toUnsigned_range _ _
    · cases interpreted

/-- The value of a literal lies in the range of its field. -/
theorem interpret_range {l : Literal} (nonneg : 0 ≤ l.magnitude) {width : Nat} (pos : 0 < width)
    {signedness : Signedness} {value : Int}
    (interpreted : l.interpret width signedness = .ok value) :
    (signedness.range width).holds value = true := by
  cases signedness with
  | signed => exact Bits.signedRange_holds_iff.mpr (interpret_signed_range pos interpreted)
  | unsigned => exact Bits.unsignedRange_holds_iff.mpr (interpret_unsigned_range nonneg interpreted)
  | either => exact Bits.unsignedRange_holds_iff.mpr (interpret_either_range nonneg interpreted)

/-! ## Reading -/

theorem whole_of_firstBad? {base : Base} {before digits : Text}
    (good : firstBad? base before digits = none) : digits.Whole := by
  induction digits generalizing before with
  | nil => exact Text.whole_nil
  | cons point rest ih =>
    cases point with
    | surrogate index => cases good
    | char c =>
      rw [firstBad?] at good
      split at good
      · exact Text.whole_cons.mpr (ih good)
      · cases good

theorem whole_of_readDigits {base : Base} {before digits : Text} {n : Nat}
    (read : readDigits base before digits = .ok n) : digits.Whole := by
  unfold readDigits at read
  split at read
  · cases read
  · split at read
    · cases read
    · rename_i good
      exact whole_of_firstBad? good

theorem whole_of_readDecimal {raw : Text} {result : Bool × Nat}
    (read : readDecimal raw = .ok result) : raw ≠ [] ∧ raw.Whole := by
  unfold readDecimal at read
  split at read
  · refine ⟨by simp, ?_⟩
    split at read
    · rename_i isSign
      split at read
      · cases read
      · obtain ⟨_, digits, -⟩ := Outcome.map_eq_ok_iff.mp read
        rcases isSign with rfl | rfl <;> exact Text.whole_cons.mpr (whole_of_readDigits digits)
    · obtain ⟨_, digits, -⟩ := Outcome.map_eq_ok_iff.mp read
      exact whole_of_readDigits digits
  · cases read

theorem whole_of_marked? {raw digits : Text} {base : Base}
    (marked : marked? raw = some (base, digits)) (whole : digits.Whole) : raw ≠ [] ∧ raw.Whole := by
  unfold marked? at marked
  split at marked
  · rename_i c _
    obtain ⟨_, announced, same⟩ := Option.map_eq_some_iff.mp marked
    cases same
    cases c with
    | char c => exact ⟨by simp, Text.whole_cons.mpr (Text.whole_cons.mpr whole)⟩
    | surrogate index => cases announced
  · cases marked

/-- Reading gives a literal whose magnitude is not negative, with its text. -/
theorem parse_wasRead {text : Text} {l : Literal} (parsed : parse text = .ok l) :
    l.WasRead := by
  unfold parse ofTrimmed at parsed
  generalize text.trim = raw at parsed
  split at parsed
  · rename_i base digits marked
    obtain ⟨magnitude, read, rfl⟩ := Outcome.map_eq_ok_iff.mp parsed
    obtain ⟨some, whole⟩ := whole_of_marked? marked (whole_of_readDigits read)
    exact ⟨Int.natCast_nonneg magnitude, some, whole⟩
  · obtain ⟨⟨negative, magnitude⟩, read, rfl⟩ := Outcome.map_eq_ok_iff.mp parsed
    obtain ⟨some, whole⟩ := whole_of_readDecimal read
    exact ⟨Int.natCast_nonneg magnitude, some, whole⟩

/-- A literal with a text is spelled by it. -/
theorem WasRead.spelling {l : Literal} (read : l.WasRead) : l.spelling? = some l.text := by
  simp [spelling?, read.spelled]

end Literal

end Assembler
