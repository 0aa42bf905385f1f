import Assembler.Proofs.Literal
import Assembler.Proofs.Loading

/-!
# Printing and reading literals

A literal that was computed has no text of its own, and is printed in its base. What is printed is
a text of the grammar whose digits stand for the magnitude, so reading it gives the literal back.
Only the sign of a marked literal is lost, which no field looks at: the literal that is read has the
same value as the printed one in every field, or fails in the same way.
-/

namespace Assembler

namespace Literal

/-! ## Printing -/

/-- How a literal is printed: its digits stand for the magnitude, and a sign is shown if it is a
decimal literal. -/
structure Prints (l : Literal) (raw : Text) (digits : List Char) : Prop where
  spelling : l.spelling? = some raw
  spells : Spells raw l.base digits
  value : (l.base.positional digits : Int) = l.magnitude
  sign : l.base = .dec → (decide (raw.head? = some (.char '-'))) = l.negative

variable {n : Nat} {negative : Bool}

theorem prints_decimal (short : Text.isWritable n = true) :
    Prints ⟨.dec, n, negative, []⟩
      ((if negative then "-" else "") ++ Text.ofChars (Nat.toDigits 10 n)) (Nat.toDigits 10 n) := by
  obtain ⟨numeral, value⟩ := Base.dec.renders_toDigits n
  have unsigned : (Text.ofChars (Nat.toDigits 10 n)).head? ≠ some (.char '-') :=
    head?_ne_minus numeral
  have digits : Text.ofString (Text.decimal n) = .ofChars (Nat.toDigits 10 n) :=
    Text.ofString_ofList _
  have printed : spelling? ⟨.dec, n, negative, []⟩ =
      some ((if negative then "-" else "") ++ Text.ofChars (Nat.toDigits 10 n)) := by
    simp [spelling?, Text.decimal?_of_isWritable short, digits]
  cases negative with
  | true => exact ⟨printed, .signed (Or.inr rfl) numeral, congrArg Nat.cast value, fun _ => rfl⟩
  | false =>
    exact ⟨printed, .plain numeral, congrArg Nat.cast value, fun _ => by simpa using unsigned⟩

/-- In the other bases a mark precedes the digits. -/
theorem prints_marked {base : Base} (marked : base ≠ .dec) {digits : List Char}
    (renders : base.Renders digits n)
    (printed : spelling? ⟨base, n, negative, []⟩ = some (base.mark ++ Text.ofChars digits)) :
    Prints ⟨base, n, negative, []⟩ (.ofChars (base.mark.toList ++ digits)) digits := by
  have isMark : base.mark.toList ∈ base.marks := by
    cases base with
    | dec => exact absurd rfl marked
    | _ => decide +kernel
  refine ⟨?_, .marked isMark renders.numeral, congrArg Nat.cast renders.value, ?_⟩
  · rw [printed, Text.ofChars_append]
    rfl
  · intro decimal
    exact absurd decimal marked

theorem exists_prints {l : Literal} (untitled : l.text = []) (nonneg : 0 ≤ l.magnitude)
    (short : l.base = .dec → Text.isWritable l.magnitude = true) :
    ∃ raw digits, l.Prints raw digits ∧ (l.base = .dec → digits.length ≤ Text.maxDigits) := by
  obtain ⟨base, magnitude, negative, text⟩ := l
  obtain rfl : text = [] := untitled
  obtain ⟨n, rfl⟩ := Int.eq_ofNat_of_zero_le nonneg
  cases base with
  | dec =>
    have within := Text.isWritable_iff_length.mp (short rfl)
    exact ⟨_, _, prints_decimal (short rfl), fun _ => within⟩
  | bin =>
    have marked : Base.bin ≠ .dec := by decide
    have printed : Text.ofString (Text.inBase 2 n) = .ofChars (Nat.toDigits 2 n) :=
      Text.ofString_ofList _
    refine ⟨_, _, prints_marked marked (Base.bin.renders_toDigits n) ?_, fun h => absurd h marked⟩
    exact congrArg (fun digits : Text => some (Base.bin.mark ++ digits)) printed
  | oct =>
    have marked : Base.oct ≠ .dec := by decide
    have printed : Text.ofString (Text.inBase 8 n) = .ofChars (Nat.toDigits 8 n) :=
      Text.ofString_ofList _
    refine ⟨_, _, prints_marked marked (Base.oct.renders_toDigits n) ?_, fun h => absurd h marked⟩
    exact congrArg (fun digits : Text => some (Base.oct.mark ++ digits)) printed
  | hex =>
    have printed : Text.ofString (Text.hex n) = .ofChars (Text.hexDigits n) := by
      simp [Text.hex, Text.hexPadded, Text.fill]
    have marked : Base.hex ≠ .dec := by decide
    refine ⟨_, _, prints_marked marked (Base.hex.renders_toDigits n).capitals ?_,
      fun h => absurd h marked⟩
    exact congrArg (fun digits : Text => some (Base.hex.mark ++ digits)) printed

/-! ## Reading back -/

/-- Literals that no field can tell apart, and no message: a sign shows on decimal ones only. -/
structure Agrees (l other : Literal) : Prop where
  base : other.base = l.base
  magnitude : other.magnitude = l.magnitude
  sign : l.base = .dec → other.negative = l.negative
  spelling : other.spelling? = l.spelling?

variable {l other : Literal}

theorem Agrees.interpret (agrees : l.Agrees other) (width : Nat) (signedness : Signedness) :
    other.interpret width signedness = l.interpret width signedness := by
  have marked : other.isMarked = l.isMarked := by rw [isMarked, isMarked, agrees.base]
  unfold Literal.interpret
  rw [marked, agrees.magnitude, agrees.spelling]
  cases kind : l.isMarked with
  | true => rfl
  | false =>
    have decimal : l.base = .dec := by simpa [isMarked] using kind
    have value : other.signedValue = l.signedValue := by
      rw [signedValue, signedValue, agrees.sign decimal, agrees.magnitude]
    rw [value]

/-- Such literals have the same value in a field, or the same error. -/
theorem Agrees.interpretLiteral (agrees : l.Agrees other) (width : Int) (signedness : Signedness)
    (location : Option Location) :
    Assembler.interpretLiteral other width signedness location =
      Assembler.interpretLiteral l width signedness location := by
  have sign : other.needsSignBit signedness = l.needsSignBit signedness := by
    rw [needsSignBit, needsSignBit, isMarked, isMarked, agrees.base, agrees.magnitude]
  unfold Assembler.interpretLiteral
  rw [sign]
  cases widthFor (l.needsSignBit signedness) width with
  | error e => rfl
  | ok bits => simp only [agrees.interpret]

/-- What is printed is read as a literal that agrees. -/
theorem Prints.read {raw : Text} {digits : List Char} (prints : l.Prints raw digits)
    (short : l.base = .dec → digits.length ≤ Text.maxDigits) :
    ∃ back, parse raw = .ok back ∧ l.Agrees back := by
  have read := parse_of_spells prints.spells short
  refine ⟨_, read, rfl, prints.value, prints.sign, ?_⟩
  rw [(parse_wasRead read).spelling, prints.spelling]
  rfl

end Literal

/-- The decimal text of an integer is read as its literal, and so is the number itself in a
document. A literal without a text is read back from what is printed for it: with the same base and
magnitude, with its sign if it is decimal, and with the same outcome in every field. -/
theorem parseLiteral_inverts_spelling :
    (∀ n : Int, (Nat.toDigits 10 n.natAbs).length ≤ 4300 →
      Text.decimal? n = some (Text.ofString (Text.decimal n)) ∧
        (∀ location, parseLiteral (Text.decimal n) location = .ok (.ofInt n)) ∧
        ∀ place, Document.readLiteral (.int n) place = .ok (.ofInt n) ∧
          Document.readLiteral (.string (Text.decimal n)) place = .ok (.ofInt n)) ∧
      ∀ l : Literal, l.text = [] → 0 ≤ l.magnitude →
        (l.base = .dec → (Nat.toDigits 10 l.magnitude.natAbs).length ≤ 4300) →
        ∃ text back, l.spelling? = some text ∧
          (∀ location, parseLiteral text location = .ok back) ∧
          back.base = l.base ∧ back.magnitude = l.magnitude ∧
          (l.base = .dec → back.negative = l.negative) ∧
          (∀ width signedness, back.interpret width signedness = l.interpret width signedness) ∧
          ∀ width signedness location,
            interpretLiteral back width signedness location =
              interpretLiteral l width signedness location := by
  constructor
  · intro n few
    have short : Text.isWritable n = true := Text.isWritable_iff_length.mpr few
    have read := Literal.parse_decimal short
    refine ⟨Text.decimal?_of_isWritable short, ?_, ?_⟩
    · intro location
      exact Outcome.mapError_eq_ok_iff.mpr read
    · intro place
      exact ⟨Document.readLiteral_eq_ok_iff.mpr (.integer short),
        Document.readLiteral_eq_ok_iff.mpr (.text read)⟩
  · intro l untitled nonneg few
    have short : l.base = .dec → Text.isWritable l.magnitude = true := by
      intro decimal
      exact Text.isWritable_iff_length.mpr (few decimal)
    obtain ⟨raw, digits, prints, within⟩ := Literal.exists_prints untitled nonneg short
    obtain ⟨back, read, agrees⟩ := prints.read within
    refine ⟨_, back, prints.spelling, fun location => ?_, agrees.base, agrees.magnitude,
      agrees.sign, agrees.interpret, agrees.interpretLiteral⟩
    exact Outcome.mapError_eq_ok_iff.mpr read

/-- A marked literal with a sign, which is not printed. -/
def Literal.signedMark : Literal := ⟨.hex, 0xBEEF, true, []⟩

/-- A negative zero is printed as one. -/
def Literal.minusZero : Literal := ⟨.dec, 0, true, []⟩

theorem parseLiteral_inverts_spelling_signs :
    parseLiteral (Text.decimal (-7)) none = .ok (.ofInt (-7)) ∧
      Literal.minusZero.spelling? = some ("-0" : Text) ∧
      (∃ back, parseLiteral "-0" none = .ok back ∧ back.negative = true) ∧
      Literal.signedMark.spelling? = some ("0xBEEF" : Text) ∧
      ∃ back, parseLiteral "0xBEEF" none = .ok back ∧ back.magnitude = 0xBEEF ∧
        interpretLiteral back 16 .signed none = interpretLiteral .signedMark 16 .signed none := by
  have number := (parseLiteral_inverts_spelling.1 (-7) (by decide)).2.1 none
  have decimal : (Nat.toDigits 10 Literal.minusZero.magnitude.natAbs).length ≤ 4300 := by decide
  obtain ⟨zeroText, zero, zeroPrinted, zeroRead, -, -, zeroSign, -⟩ :=
    parseLiteral_inverts_spelling.2 .minusZero rfl (by decide) fun _ => decimal
  obtain ⟨text, back, printed, read, -, magnitude, -, -, outcome⟩ :=
    parseLiteral_inverts_spelling.2 .signedMark rfl (by decide) fun h => absurd h (by decide)
  have zeroShown : Literal.minusZero.spelling? = some "-0" := by decide +kernel
  have shown : Literal.signedMark.spelling? = some "0xBEEF" := by decide +kernel
  obtain rfl : "-0" = zeroText := Option.some.inj (zeroShown.symm.trans zeroPrinted)
  obtain rfl : "0xBEEF" = text := Option.some.inj (shown.symm.trans printed)
  exact ⟨number, zeroShown, ⟨zero, zeroRead none, zeroSign rfl⟩, shown, back, read none, magnitude,
    outcome 16 .signed none⟩

end Assembler
