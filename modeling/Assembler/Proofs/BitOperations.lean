import Assembler.Proofs.Bits
import Mathlib.Data.Int.Bitwise
import Mathlib.Data.Int.ModEq
import Mathlib.Tactic.Ring

/-!
# Bit fields by operations on bits

Patterns, halves and two's complement are quotients and remainders of integers. They are also what
shifts, masks, `or` and `xor` give on two's complement numbers without an end, negative ones
included: each of them can be computed from the lowest bit up, one bit of width at a time. In
particular the halves of an address share no bit, so that joining them with `or` adds them.
-/

namespace Assembler

namespace Bits

/-- The integer whose low `width` bits are set. -/
def mask (width : Nat) : Int := (1 : Int) <<< width - 1

/-! ## One more bit at the low end -/

theorem toUnsigned_bit (b : Bool) (rest : Int) (width : Nat) :
    toUnsigned (Int.bit b rest) (width + 1) = Int.bit b (toUnsigned rest width) := by
  obtain ⟨nonneg, below⟩ := toUnsigned_range rest width
  have parts : toUnsigned rest width + patterns width * (rest / patterns width) = rest :=
    Int.emod_add_mul_ediv rest (patterns width)
  have whole : Int.bit b (toUnsigned rest width) + 2 * patterns width * (rest / patterns width) =
      Int.bit b rest := by
    rw [Int.bit_val, Int.bit_val, Int.mul_assoc]
    omega
  have range : 0 ≤ Int.bit b (toUnsigned rest width) ∧
      Int.bit b (toUnsigned rest width) < 2 * patterns width := by
    cases b <;> simp only [Int.bit_val, cond_true, cond_false] <;> omega
  rw [toUnsigned, patterns_succ]
  exact ((Int.ediv_emod_unique (by omega)).mpr ⟨whole, range⟩).2

theorem join_bit (b : Bool) (rest high : Int) (width : Nat) :
    join (Int.bit b rest) high (width + 1) = Int.bit b (join rest high width) := by
  have lowBits := toUnsigned_bit b rest width
  unfold toUnsigned at lowBits
  rw [join, lowBits, join, patterns_succ, Int.bit_val, Int.bit_val]
  ring

/-- Below the sign bit a field can be widened. -/
theorem signExtend_bit (b : Bool) (rest : Int) (width : Nat) :
    signExtend (Int.bit b rest) (width + 2) = Int.bit b (signExtend rest (width + 1)) := by
  have signBit : patterns (width + 1) = 2 * patterns width := patterns_succ width
  have whole : patterns (width + 2) = 2 * patterns (width + 1) := patterns_succ (width + 1)
  simp only [signExtend, toUnsigned_bit, Nat.add_one_sub_one]
  cases b <;> simp only [Int.bit_val, cond_true, cond_false] <;> split <;> split <;> omega

theorem shiftLeft_succ_eq_bit (value : Int) (width : Nat) :
    value <<< (width + 1) = Int.bit false (value <<< width) := by
  rw [Int.shiftLeft_succ', Int.bit_val, cond_false, Int.add_zero]

theorem mask_succ (width : Nat) : mask (width + 1) = Int.bit true (mask width) := by
  simp only [mask, shiftLeft_succ_eq_bit, Int.bit_val, cond_false, cond_true]
  omega

/-! ## Fields of any width -/

theorem patterns_eq_shiftLeft (width : Nat) : patterns width = (1 : Int) <<< width := by
  rw [Int.shiftLeft_eq, Int.one_mul, patterns_eq]

theorem toUnsigned_eq_land (value : Int) (width : Nat) :
    toUnsigned value width = Int.land value (mask width) := by
  induction width generalizing value with
  | zero =>
    have empty : mask 0 = 0 := rfl
    cases value <;> simp [empty, toUnsigned, patterns, Int.land, Nat.ldiff]
  | succ width ih =>
    cases value using Int.bitCasesOn with
    | h b rest => rw [mask_succ, Int.land_bit, Bool.and_true, toUnsigned_bit, ih]

theorem split_eq_land (value : Int) (width : Nat) :
    split value width = (Int.land value (mask width), value >>> width) := by
  rw [← toUnsigned_eq_land, Int.shiftRight_eq_div_pow]
  rfl

/-- The upper part ends in zeros where the lower part has its bits, so no two bits meet. -/
theorem join_eq_lor (low high : Int) (width : Nat) :
    join low high width = Int.lor (high <<< width) (Int.land low (mask width)) := by
  rw [← toUnsigned_eq_land]
  induction width generalizing low with
  | zero => cases high <;> simp [join, toUnsigned, patterns, Int.lor, Nat.ldiff]
  | succ width ih =>
    cases low using Int.bitCasesOn with
    | h b rest =>
      rw [join_bit, shiftLeft_succ_eq_bit, toUnsigned_bit, Int.lor_bit, Bool.false_or, ih]

theorem signExtend_one (value : Int) :
    signExtend value 1 = Int.xor (toUnsigned value 1) 1 - 1 := by
  have range := toUnsigned_range value 1
  have two : patterns 1 = 2 := rfl
  obtain clear | set : toUnsigned value 1 = 0 ∨ toUnsigned value 1 = 1 := by omega
  · rw [signExtend, clear]
    decide
  · rw [signExtend, set]
    decide

/-- Flipping the sign bit adds it where it was clear, and takes it away where it was set. -/
theorem signExtend_eq_xor (value : Int) {width : Nat} (pos : 0 < width) :
    signExtend value width =
      Int.xor (Int.land value (mask width)) ((1 : Int) <<< (width - 1)) -
        (1 : Int) <<< (width - 1) := by
  rw [← toUnsigned_eq_land]
  -- the width below the sign bit, as a field of one bit is nothing but its sign
  obtain ⟨below, rfl⟩ := Nat.exists_eq_add_one.mpr pos
  rw [Nat.add_one_sub_one]
  clear pos
  induction below generalizing value with
  | zero => exact signExtend_one value
  | succ below ih =>
    cases value using Int.bitCasesOn with
    | h b rest =>
      rw [signExtend_bit, ih, toUnsigned_bit, shiftLeft_succ_eq_bit, Int.lxor_bit, Bool.xor_false]
      simp only [Int.bit_val, cond_false]
      ring

/-- Halves and two's complement are what the operations on bits give. The halves of a value join to
it, and joined parts are split again. Two's complement gives the value of the signed range with
the same low bits, and so gives back exactly the values that fit. -/
theorem fields_roundTrip (value low high : Int) (half width : Nat) (pos : 1 ≤ width) :
    (split value half = (Int.land value (mask half), value >>> half) ∧
      join low high half = Int.lor (high <<< half) (Int.land low (mask half)) ∧
      0 ≤ (split value half).1 ∧ (split value half).1 < 2 ^ half ∧
      join (split value half).1 (split value half).2 half = value ∧
      split (join low high half) half = (low % 2 ^ half, high)) ∧
    (toUnsigned value width = Int.land value (mask width) ∧
      signExtend value width =
        Int.xor (Int.land value (mask width)) ((1 : Int) <<< (width - 1)) -
          (1 : Int) <<< (width - 1) ∧
      signedRange width = ⟨-((1 : Int) <<< (width - 1)), (1 : Int) <<< (width - 1) - 1⟩ ∧
      (signedRange width).holds (signExtend value width) = true ∧
      signExtend value width ≡ value [ZMOD 2 ^ width] ∧
      toUnsigned (signExtend value width) width = toUnsigned value width ∧
      toUnsigned value width = value % 2 ^ width ∧
      (signExtend (toUnsigned value width) width = value ↔
        (signedRange width).holds value = true)) := by
  obtain ⟨nonneg, below⟩ := split_low_range value half
  have inside := signedRange_holds_iff.mpr (signExtend_range value pos)
  have sameBits := toUnsigned_signExtend value width
  refine ⟨⟨split_eq_land value half, join_eq_lor low high half, nonneg, ?_, join_split value half,
    ?_⟩, toUnsigned_eq_land value width, signExtend_eq_xor value pos, ?_, inside, ?_, sameBits, ?_,
    ?_⟩
  · rwa [← patterns_eq]
  · rw [← patterns_eq]
    exact split_join low high half
  · rw [← patterns_eq_shiftLeft, signedRange]
  · rw [← patterns_eq]
    exact sameBits
  · rw [← patterns_eq, toUnsigned]
  · rw [signExtend_toUnsigned, signExtend_eq_self_iff pos]

theorem fields_roundTrip_negative :
    (Int.land (-100000) (mask 16) = 31072 ∧ (-100000 : Int) >>> 16 = -2 ∧
      Int.lor ((-2 : Int) <<< 16) (Int.land 31072 (mask 16)) = -100000) ∧
    (signExtend (-100000) 16 = 31072 ∧ (31072 : Int) ≡ -100000 [ZMOD 2 ^ 16] ∧
      (signedRange 16).holds (-100000) = false) := by
  obtain ⟨⟨splits, joins, -⟩, -, -, -, -, congruent, -, -, fits⟩ :=
    fields_roundTrip (-100000) 31072 (-2) 16 16 (by decide)
  have halves : split (-100000) 16 = (31072, -2) := by decide
  have whole : join 31072 (-2) 16 = -100000 := by decide
  have extended : signExtend (-100000) 16 = 31072 := by decide
  rw [halves, Prod.mk.injEq] at splits
  rw [whole] at joins
  rw [extended] at congruent
  rw [signExtend_toUnsigned, extended] at fits
  have outside : (signedRange 16).holds (-100000) = false := by
    rw [Bool.eq_false_iff, Ne, ← fits]
    decide
  exact ⟨⟨splits.1.symm, splits.2.symm, joins.symm⟩, extended, congruent, outside⟩

end Bits

end Assembler
