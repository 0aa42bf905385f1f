import Assembler.Proofs.Expansion
import Assembler.Proofs.Numeral

/-!
# Quantities

A `Quantity` is a number with the field that has to take it. Which numbers a field takes is said
here without the checks of the passes, and so is the error of a number that does not fit: an
overflow with the text of the number, unless the number has too many digits to be written. A check
of a quantity fails exactly if it does not fit, and then with that error.

The first quantity is the word of `LWI`, on which the number of its instructions depends. Counting
the words of a form and expanding it agree, and where the count fails the expansion fails alike.
-/

namespace Assembler

/-! ## Numbers and their fields -/

namespace Operand

/-- Whether an operand is a number. The magnitude of a literal has to be an absolute value. -/
def Numeric : Operand → Prop
  | .numeral l => l.Absolute
  | .number _ => True
  | _ => False

/-- The number that an operand stands for; an operand that is no number counts as zero. -/
def amount : Operand → Int
  | .numeral l => l.number
  | .number n => n
  | _ => 0

/-- The numbers that a field takes from an operand: bit patterns if it is a marked literal. -/
def accepted (width : Nat) (signedness : Signedness) : Operand → Range
  | .numeral l => l.accepted width signedness
  | _ => Literal.decimalRange width signedness

end Operand

/-- A number with the field that has to take it. -/
structure Quantity where
  operand : Operand
  width : Nat
  signedness : Signedness
  deriving DecidableEq, Repr

namespace Quantity

/-- The numbers that the field takes. -/
def accepted (q : Quantity) : Range := q.operand.accepted q.width q.signedness

/-- Whether the number fits the field. -/
def fits (q : Quantity) : Bool := q.accepted.holds q.operand.amount

/-- The error of a number that does not fit. One that cannot be written has no diagnostic. -/
def misfit (q : Quantity) (location : Option Location) : Error :=
  match q.operand.text? with
  | some text => .located location (.overflow ⟨some text, q.width, q.signedness, q.accepted⟩)
  | none => .fault .numberTooLong

/-- The first of some quantities that does not fit. -/
def firstMisfit? (quantities : List Quantity) : Option Quantity :=
  quantities.find? fun q => !q.fits

variable {q : Quantity} {location : Option Location}

theorem firstMisfit?_eq_none_iff {quantities : List Quantity} :
    firstMisfit? quantities = none ↔ ∀ q ∈ quantities, q.fits = true := by
  simp [firstMisfit?]

theorem mem_of_firstMisfit? {quantities : List Quantity}
    (found : firstMisfit? quantities = some q) : q ∈ quantities ∧ q.fits = false := by
  have misfit := List.find?_some found
  exact ⟨List.mem_of_find?_eq_some found, by simpa using misfit⟩

theorem firstMisfit?_cons (quantities : List Quantity) :
    firstMisfit? (q :: quantities) = if q.fits then firstMisfit? quantities else some q := by
  unfold firstMisfit?
  rw [List.find?_cons]
  cases q.fits <;> rfl

theorem accepted_small (field : FieldWidth q.width) :
    -Bits.patterns 32 ≤ q.accepted.low ∧ q.accepted.low ≤ q.accepted.high ∧
      q.accepted.high ≤ Bits.patterns 32 := by
  unfold accepted
  cases q.operand with
  | numeral l => exact l.accepted_small field q.signedness
  | _ => exact Literal.decimalRange_small field q.signedness

/-- A number that fits a field of the machine can be written. -/
theorem isWritable_of_fits (field : FieldWidth q.width) (fits : q.fits = true) :
    Text.isWritable q.operand.amount = true := by
  obtain ⟨least, -, most⟩ := q.accepted_small field
  obtain ⟨low, high⟩ := Range.holds_iff.mp fits
  exact Text.isWritable_of_small (least.trans low) (high.trans most)

/-- A number that fits an unsigned field is not negative. -/
theorem amount_nonneg {o : Operand} {width : Nat} (fits : fits ⟨o, width, .unsigned⟩ = true) :
    0 ≤ o.amount := by
  have unsigned : accepted ⟨o, width, .unsigned⟩ = Bits.unsignedRange width := by
    cases o with
    | numeral l =>
      simp only [accepted, Operand.accepted, Literal.accepted]
      split <;> rfl
    | _ => rfl
  rw [Quantity.fits, unsigned] at fits
  exact (Bits.unsignedRange_holds_iff.mp fits).1

/-- The error of a number that does not fit is that of an overflow with its text and range. -/
theorem overflow_eq_misfit (field : FieldWidth q.width) :
    Error.overflow location ⟨q.operand.text?, q.width, q.signedness, q.accepted⟩ =
      q.misfit location := by
  obtain ⟨low, ordered, high⟩ := q.accepted_small field
  unfold misfit
  cases spelled : q.operand.text? with
  | none => rfl
  | some text => exact Error.overflow_of_small rfl low ordered high

theorem misfit_of_unspelled {o : Operand} (unspelled : o.text? = none) (width : Nat)
    (signedness : Signedness) (location : Option Location) :
    misfit ⟨o, width, signedness⟩ location = .fault .numberTooLong := by
  unfold misfit
  rw [unspelled]

end Quantity

/-! ## Numbers that cannot be written -/

theorem Literal.isWritable_number {l : Literal} (decimal : l.base = .dec) :
    Text.isWritable l.number = Text.isWritable l.magnitude := by
  have unmarked : l.isMarked = false := by simp [isMarked, decimal]
  have same : l.signedValue.natAbs = l.magnitude.natAbs := by
    unfold signedValue
    split
    · exact Int.natAbs_neg l.magnitude
    · rfl
  simp only [Text.isWritable, number, unmarked, Bool.false_eq_true, if_false, same]

/-- A number that cannot be written fits no field of the machine. -/
theorem Quantity.not_fits_of_unspelled {o : Operand} (numeric : o.Numeric)
    (unspelled : o.text? = none) {width : Nat} (field : FieldWidth width)
    (signedness : Signedness) : fits ⟨o, width, signedness⟩ = false := by
  rw [Bool.eq_false_iff]
  intro fits
  have written := isWritable_of_fits field fits
  cases o with
  | numeral l =>
    obtain ⟨-, decimal, long⟩ := Literal.spelling?_eq_none_iff.mp unspelled
    rw [Operand.amount, Literal.isWritable_number decimal, long] at written
    cases written
  | number n =>
    have spelled := Text.decimal?_of_isWritable written
    rw [Operand.text?] at unspelled
    rw [Operand.amount, unspelled] at spelled
    cases spelled
  | _ => exact numeric.elim

/-- The first decimal number that is too long to be written, without a text of its own. -/
def Literal.long : Literal := ⟨.dec, Text.digitLimit, false, []⟩

theorem Literal.long_numeric : (Operand.numeral .long).Numeric := Int.natCast_nonneg _

theorem Literal.long_unspelled : (Operand.numeral .long).text? = none := by
  refine spelling?_eq_none_iff.mpr ⟨rfl, rfl, ?_⟩
  have equal : Literal.long.magnitude.natAbs = Text.digitLimit := Int.natAbs_natCast _
  have notBelow : ¬ Literal.long.magnitude.natAbs < Text.digitLimit := by
    rw [equal]
    exact Nat.lt_irrefl _
  exact decide_eq_false notBelow

/-! ## Checks of quantities -/

section Checks

variable {o : Operand} {width : Nat} {signedness : Signedness} {location : Option Location}
  {e : Error}

theorem interpretLiteral_refuses_iff (field : FieldWidth width) {l : Literal}
    (nonneg : 0 ≤ l.magnitude) :
    interpretLiteral l width signedness location = .error e ↔
      Quantity.fits ⟨.numeral l, width, signedness⟩ = false ∧
        e = Quantity.misfit ⟨.numeral l, width, signedness⟩ location := by
  rw [interpretLiteral_eq field, Outcome.mapError_eq_error_iff,
    ← Quantity.overflow_eq_misfit field]
  simp only [Literal.interpret_eq_error_iff nonneg]
  constructor
  · intro failed
    obtain ⟨o, ⟨outside, rfl⟩, same⟩ := failed
    exact ⟨outside, same⟩
  · intro ⟨outside, same⟩
    exact ⟨_, ⟨outside, rfl⟩, same⟩

theorem requireFitsAt_refuses_iff (field : FieldWidth width) (single : signedness ≠ .either)
    {n : Int} :
    requireFitsAt n width signedness location = .error e ↔
      Quantity.fits ⟨.number n, width, signedness⟩ = false ∧
        e = Quantity.misfit ⟨.number n, width, signedness⟩ location := by
  have range := Signedness.range_eq_decimalRange single width
  have refused : Error.overflow location
      ⟨Text.decimal? n, width, signedness, signedness.range width⟩ =
        Quantity.misfit ⟨.number n, width, signedness⟩ location := by
    rw [range]
    exact Quantity.overflow_eq_misfit (q := ⟨.number n, width, signedness⟩) field
  have holds : Quantity.fits ⟨.number n, width, signedness⟩ =
      (signedness.range width).holds n := by
    rw [range]
    rfl
  simp only [requireFitsAt, widthFor_of_fieldWidth field, Outcome.mapError_eq_error_iff,
    ← refused, holds]
  unfold requireFits
  by_cases inside : (signedness.range width).holds n = true
  · simp [inside]
  · simp [inside]

/-- The check of a number in a signed or unsigned field fails exactly if it does not fit. -/
theorem Operand.Numeric.fit_refuses_iff (numeric : o.Numeric) (field : FieldWidth width)
    (single : signedness ≠ .either) :
    o.fit width signedness location = .error e ↔
      Quantity.fits ⟨o, width, signedness⟩ = false ∧
        e = Quantity.misfit ⟨o, width, signedness⟩ location := by
  cases o with
  | numeral l => exact interpretLiteral_refuses_iff field numeric
  | number n => exact requireFitsAt_refuses_iff field single
  | _ => exact numeric.elim

theorem Operand.Numeric.fit_accepts (numeric : o.Numeric) (field : FieldWidth width)
    (single : signedness ≠ .either) (fits : Quantity.fits ⟨o, width, signedness⟩ = true)
    (location : Option Location) : ∃ value, o.fit width signedness location = .ok value := by
  rcases Outcome.isOk_or_isError (o.fit width signedness location) with accepted | ⟨e, failed⟩
  · exact accepted
  · have misfit := ((numeric.fit_refuses_iff field single).mp failed).1
    rw [fits] at misfit
    cases misfit

/-- The check of a value of a list, which may be signed or unsigned, fails exactly if it does not
fit. -/
theorem Operand.Numeric.valueIn_refuses_iff (numeric : o.Numeric) {kind : ListKind} :
    Element.valueIn kind location o = .error e ↔
      Quantity.fits ⟨o, 8 * kind.width, .either⟩ = false ∧
        e = Quantity.misfit ⟨o, 8 * kind.width, .either⟩ location := by
  cases o with
  | numeral l => exact interpretLiteral_refuses_iff kind.fieldWidth numeric
  | number n =>
    have number : (Literal.ofInt n).number = n := Literal.signedValue_ofInt n
    have holds : Quantity.fits ⟨.number n, 8 * kind.width, .either⟩ =
        (Literal.ofInt n).fits (8 * kind.width) .either := by
      rw [Literal.fits, number]
      rfl
    by_cases writable : Text.isWritable n = true
    · -- A number that can be written counts as the literal that is read from its text.
      have read := Literal.parse_wasRead (Literal.parse_decimal writable)
      have spelled : Operand.text? (.number n) = some (Literal.ofInt n).text :=
        Text.decimal?_of_isWritable writable
      simp only [Element.valueIn, writable, if_true, Quantity.misfit, spelled, holds]
      exact interpretLiteral_eq_error_iff kind.fieldWidth read
    · -- One that cannot is too long for the field.
      have unspelled : Operand.text? (.number n) = none :=
        Text.decimal?_of_not_isWritable (Bool.eq_false_iff.mpr writable)
      have outside : Quantity.fits ⟨.number n, 8 * kind.width, .either⟩ = false :=
        Quantity.not_fits_of_unspelled numeric unspelled kind.fieldWidth .either
      simp [Element.valueIn, writable, Quantity.misfit, unspelled, outside, eq_comm]
  | _ => exact numeric.elim

theorem Operand.Numeric.valueIn_accepts (numeric : o.Numeric) {kind : ListKind}
    (fits : Quantity.fits ⟨o, 8 * kind.width, .either⟩ = true) (location : Option Location) :
    ∃ value, Element.valueIn kind location o = .ok value := by
  rcases Outcome.isOk_or_isError (Element.valueIn kind location o) with accepted | ⟨e, failed⟩
  · exact accepted
  · have misfit := (numeric.valueIn_refuses_iff.mp failed).1
    rw [fits] at misfit
    cases misfit

/-- An unsigned field takes a number as it is. -/
theorem Operand.fit_unsigned (field : FieldWidth width) {value : Int}
    (fit : o.fit width .unsigned location = .ok value) : value = o.amount := by
  rcases (fit_eq_ok_iff field).mp fit with ⟨l, rfl, interpreted⟩ | ⟨rfl, -⟩
  · exact Literal.interpret_unsigned interpreted
  · rfl

/-- A signed field takes a number at its two's complement, which a decimal number is already. -/
theorem Operand.fit_signed (field : FieldWidth width) {value : Int}
    (fit : o.fit width .signed location = .ok value) :
    value = Bits.signExtend o.amount width := by
  rcases (fit_eq_ok_iff field).mp fit with ⟨l, rfl, interpreted⟩ | ⟨rfl, inside⟩
  · exact Literal.interpret_signed field.pos interpreted
  · exact (Bits.signExtend_eq_self field.pos inside).symm

end Checks

/-! ## Words of forms -/

namespace Form

/-- What has to be known of the operands of a form to count its words: the word that `LWI` loads is
a number, with an absolute value as its magnitude if it is a literal. -/
def Typed : Form → Prop
  | .loadWord _ imm => imm.Numeric
  | _ => True

/-- The quantities that have to fit before the words of a form can be counted. -/
def quantities (w : WordSize) : Form → List Quantity
  | .loadWord _ imm => [⟨imm, w.bits, .signed⟩]
  | _ => []

/-- The words that a form takes up. A word is loaded by one instruction if it is the two's
complement of an immediate. -/
def words (w : WordSize) : Form → Nat
  | .push _ | .pop _ | .loadAddress .. => 2
  | .loadWord _ imm => if fitsImmediate (Bits.signExtend imm.amount w.bits) then 1 else 2
  | _ => 1

variable {form : Form} {w : WordSize} {location : Option Location} {e : Error}

/-- A count fails exactly at a quantity that does not fit. -/
theorem Typed.wordCount_refuses_iff (typed : form.Typed) :
    form.wordCount w.bits location = .error e ↔
      ∃ q ∈ form.quantities w, q.fits = false ∧ e = q.misfit location := by
  cases form with
  | loadWord rd imm =>
    have numeric : imm.Numeric := typed
    simp only [wordCount, Outcome.map_eq_error_iff,
      numeric.fit_refuses_iff w.fieldWidth (by decide : Signedness.signed ≠ .either), quantities,
      List.mem_singleton, exists_eq_left]
  | _ => simp [wordCount, quantities]

theorem words_of_wordCount {count : Nat} (counted : form.wordCount w.bits location = .ok count) :
    count = form.words w := by
  cases form with
  | loadWord rd imm =>
    obtain ⟨value, fit, rfl⟩ := Outcome.map_eq_ok_iff.mp counted
    rw [words, Operand.fit_signed w.fieldWidth fit]
  | _ =>
    cases counted
    rfl

/-- If the quantities fit, the words are counted. -/
theorem Typed.wordCount_accepts (typed : form.Typed) (fit : ∀ q ∈ form.quantities w, q.fits = true)
    (location : Option Location) : form.wordCount w.bits location = .ok (form.words w) := by
  cases counted : form.wordCount w.bits location with
  | ok count => rw [words_of_wordCount counted]
  | error e =>
    obtain ⟨q, member, misfit, -⟩ := typed.wordCount_refuses_iff.mp counted
    rw [fit q member] at misfit
    cases misfit

/-- Where a count fails, the expansion fails in the same way. -/
theorem expand_of_wordCount_error (failed : form.wordCount w.bits location = .error e) :
    form.expand w.bits location = .error e := by
  cases form with
  | loadWord rd imm =>
    have refused := Outcome.map_eq_error_iff.mp failed
    exact Outcome.map_eq_error_iff.mpr refused
  | _ => cases failed

/-- How the count of the words of a form and its expansion agree. -/
structure Predicts (form : Form) (w : WordSize) (location : Option Location) : Prop where
  length : ∀ forms, form.expand w.bits location = .ok forms →
    form.wordCount w.bits location = .ok forms.length ∧ (forms.length = 1 ∨ forms.length = 2)
  refuses : ∀ e, form.wordCount w.bits location = .error e ↔
    ∃ rd imm, form = .loadWord rd imm ∧ Quantity.fits ⟨imm, w.bits, .signed⟩ = false ∧
      e = Quantity.misfit ⟨imm, w.bits, .signed⟩ location
  alike : ∀ e, form.wordCount w.bits location = .error e → form.expand w.bits location = .error e

/-- The count of the words of a form predicts its expansion. It fails exactly for a word that does
not fit, and the expansion with it: with an overflow at the location, or, if the word is too long to
be written, with a fault that has no location. -/
theorem wordCount_predicts (typed : form.Typed) : form.Predicts w location := by
  refine ⟨?_, ?_, ?_⟩
  · intro forms expanded
    have counted := wordCount_of_expand expanded
    exact ⟨counted, wordCount_range counted⟩
  · intro e
    rw [typed.wordCount_refuses_iff]
    cases form with
    | loadWord rd imm => simp [quantities]
    | _ => simp [quantities]
  · intro e failed
    exact expand_of_wordCount_error failed

/-- A pattern of 16 bits that is a negative immediate in a word of 16 bits only. -/
def loadPattern : Form := .loadWord .v0 (.numeral ⟨.hex, 0x9C40, false, "0x9C40"⟩)

theorem wordCount_predicts_pattern :
    loadPattern.Typed ∧ loadPattern.wordCount 32 none = .ok 2 ∧
      loadPattern.wordCount 16 none = .ok 1 ∧ loadPattern.Predicts .bits32 none ∧
      loadPattern.Predicts .bits16 none := by
  have typed : loadPattern.Typed := by
    show (0 : Int) ≤ 0x9C40
    decide
  exact ⟨typed, rfl, rfl, wordCount_predicts typed, wordCount_predicts typed⟩

/-- The word does not fit, and neither the count nor the expansion fails with an overflow. -/
theorem not_overflow_of_long_word :
    (loadWord .v0 (.numeral .long)).Typed ∧
      Quantity.fits ⟨.numeral .long, WordSize.bits32.bits, .signed⟩ = false ∧
      ∀ o, (loadWord .v0 (.numeral .long)).wordCount WordSize.bits32.bits none ≠
          .error (.located none (.overflow o)) ∧
        (loadWord .v0 (.numeral .long)).expand WordSize.bits32.bits none ≠
          .error (.located none (.overflow o)) := by
  have typed : (loadWord .v0 (.numeral .long)).Typed := Literal.long_numeric
  have outside := Quantity.not_fits_of_unspelled Literal.long_numeric Literal.long_unspelled
    (WordSize.fieldWidth .bits32) .signed
  have counted : (loadWord .v0 (.numeral .long)).wordCount WordSize.bits32.bits none =
      .error (.fault .numberTooLong) := by
    refine typed.wordCount_refuses_iff.mpr ⟨_, List.mem_singleton_self _, outside, ?_⟩
    rw [Quantity.misfit_of_unspelled Literal.long_unspelled]
  have expanded := expand_of_wordCount_error counted
  refine ⟨typed, outside, fun o => ⟨?_, ?_⟩⟩
  · rw [counted]
    nofun
  · rw [expanded]
    nofun

end Form

end Assembler
