import Assembler.Bits
import Assembler.Config
import Mathlib.Algebra.Order.Ring.Int
import Mathlib.Tactic.Positivity

/-!
# Laws of bit fields

Ranges as inequalities, the two halves of an address, and two's complement: `signExtend` lands in
the signed range, and the halves of an address join to it again.
-/

namespace Assembler

theorem Range.holds_iff {r : Range} {value : Int} :
    r.holds value = true ↔ r.low ≤ value ∧ value ≤ r.high := by
  simp [Range.holds]

namespace Bits

theorem patterns_eq (width : Nat) : patterns width = 2 ^ width := by
  simp [patterns]

theorem patterns_pos (width : Nat) : 0 < patterns width := by
  rw [patterns_eq]
  positivity

theorem patterns_succ (width : Nat) : patterns (width + 1) = 2 * patterns width := by
  simp only [patterns_eq, pow_succ']

theorem patterns_double {width : Nat} (pos : 0 < width) :
    patterns width = 2 * patterns (width - 1) := by
  rw [← patterns_succ, Nat.sub_add_cancel pos]

theorem unsignedRange_holds_iff {width : Nat} {value : Int} :
    (unsignedRange width).holds value = true ↔ 0 ≤ value ∧ value < patterns width := by
  rw [Range.holds_iff]
  simp only [unsignedRange]
  omega

theorem signedRange_holds_iff {width : Nat} {value : Int} :
    (signedRange width).holds value = true ↔
      -patterns (width - 1) ≤ value ∧ value < patterns (width - 1) := by
  rw [Range.holds_iff]
  simp only [signedRange]
  omega

theorem signedRange_eq (width : Nat) :
    signedRange width = ⟨-2 ^ (width - 1), 2 ^ (width - 1) - 1⟩ := by
  rw [signedRange, patterns_eq]

theorem signedRange_immediate : signedRange immediateWidth = ⟨-2 ^ 15, 2 ^ 15 - 1⟩ :=
  signedRange_eq 16

theorem unsignedRange_eq (width : Nat) : unsignedRange width = ⟨0, 2 ^ width - 1⟩ := by
  rw [unsignedRange, patterns_eq]

theorem unsignedRange_immediate : unsignedRange immediateWidth = ⟨0, 2 ^ 16 - 1⟩ :=
  unsignedRange_eq 16

theorem toUnsigned_range (value : Int) (width : Nat) :
    0 ≤ toUnsigned value width ∧ toUnsigned value width < patterns width :=
  ⟨Int.emod_nonneg _ (patterns_pos width).ne', Int.emod_lt_of_pos _ (patterns_pos width)⟩

theorem toUnsigned_toUnsigned (value : Int) (width : Nat) :
    toUnsigned (toUnsigned value width) width = toUnsigned value width :=
  Int.emod_emod value (patterns width)

theorem split_low_range (value : Int) (width : Nat) :
    0 ≤ (split value width).1 ∧ (split value width).1 < patterns width :=
  toUnsigned_range value width

/-- The halves of a value join to it. -/
theorem join_split (value : Int) (width : Nat) :
    join (split value width).1 (split value width).2 width = value := by
  simp only [join, split, Int.emod_emod]
  exact Int.ediv_mul_add_emod value (patterns width)

/-- What was joined is split into the same parts, the lower one cut to its low bits. -/
theorem split_join (low high : Int) (width : Nat) :
    split (join low high width) width = (toUnsigned low width, high) := by
  have whole : toUnsigned low width + patterns width * high = join low high width := by
    rw [join, toUnsigned, Int.add_comm, Int.mul_comm]
  obtain ⟨upper, lower⟩ :=
    (Int.ediv_emod_unique (patterns_pos width)).mpr ⟨whole, toUnsigned_range low width⟩
  rw [split, upper, lower]

/-- Of the lower part only the low bits are joined. -/
theorem join_toUnsigned (low high : Int) (width : Nat) :
    join (toUnsigned low width) high width = join low high width := by
  simp only [join, toUnsigned, Int.emod_emod]

/-- The upper part of a value below `patterns (high + low)` has `high` bits. -/
theorem split_high_range {value : Int} {low high : Nat} (nonneg : 0 ≤ value)
    (below : value < patterns (high + low)) :
    0 ≤ (split value low).2 ∧ (split value low).2 < patterns high := by
  have pos := patterns_pos low
  refine ⟨Int.ediv_nonneg nonneg pos.le, Int.ediv_lt_of_lt_mul pos ?_⟩
  rwa [patterns_eq, pow_add, ← patterns_eq, ← patterns_eq] at below

/-- Two's complement gives a value of the signed range. -/
theorem signExtend_range (pattern : Int) {width : Nat} (pos : 0 < width) :
    -patterns (width - 1) ≤ signExtend pattern width ∧
      signExtend pattern width < patterns (width - 1) := by
  obtain ⟨nonneg, below⟩ := toUnsigned_range pattern width
  have double := patterns_double pos
  have half := patterns_pos (width - 1)
  simp only [signExtend]
  split <;> omega

/-- Two's complement keeps the bits of a pattern. -/
theorem toUnsigned_signExtend (pattern : Int) (width : Nat) :
    toUnsigned (signExtend pattern width) width = toUnsigned pattern width := by
  unfold signExtend
  by_cases low : toUnsigned pattern width < patterns (width - 1)
  · rw [if_pos low, toUnsigned_toUnsigned]
  · rw [if_neg low, toUnsigned, Int.sub_emod_right]
    exact toUnsigned_toUnsigned pattern width

/-- Two's complement looks at the low bits only. -/
theorem signExtend_toUnsigned (value : Int) (width : Nat) :
    signExtend (toUnsigned value width) width = signExtend value width := by
  simp only [signExtend, toUnsigned_toUnsigned]

/-- A value of the signed range is its own two's complement. -/
theorem signExtend_eq_self {value : Int} {width : Nat} (pos : 0 < width)
    (inside : (signedRange width).holds value = true) : signExtend value width = value := by
  obtain ⟨low, high⟩ := signedRange_holds_iff.mp inside
  have double := patterns_double pos
  unfold signExtend
  by_cases nonneg : 0 ≤ value
  · have same : toUnsigned value width = value := Int.emod_eq_of_lt nonneg (by omega)
    rw [same, if_pos high]
  · have same : toUnsigned value width = value + patterns width := by
      rw [toUnsigned, ← Int.add_emod_right]
      exact Int.emod_eq_of_lt (by omega) (by omega)
    rw [same, if_neg (by omega)]
    omega

/-- The values that two's complement gives back are those of the signed range. -/
theorem signExtend_eq_self_iff {value : Int} {width : Nat} (pos : 0 < width) :
    signExtend value width = value ↔ (signedRange width).holds value = true := by
  constructor
  · intro same
    rw [signedRange_holds_iff, ← same]
    exact signExtend_range value pos
  · exact signExtend_eq_self pos

end Bits

/-- An address lies in the address space if it is a pattern of a word. -/
theorem WordSize.holds_iff {w : WordSize} {address : Int} :
    w.holds address = true ↔ 0 ≤ address ∧ address < Bits.patterns w.bits :=
  Bits.unsignedRange_holds_iff

end Assembler
