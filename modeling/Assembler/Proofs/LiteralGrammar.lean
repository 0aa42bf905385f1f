import Assembler.Fitting
import Assembler.Proofs.Outcome
import Mathlib.Data.List.Induction
import Mathlib.Data.Nat.Digits.Defs

/-!
# The grammar of literals

What the text of a literal looks like, and what number its digits stand for, said without the code
that reads it. `Literal.Spells raw base digits` holds if `raw` is a sign and decimal digits, or the
mark of a base and digits of that base. The digits stand for their positional value.

A text is read exactly if it is of the grammar, white space around it aside. There are two ways to
fail: a text that is of the grammar may have too many decimal digits, and any other text is
malformed.
-/

namespace Assembler

/-! ## Digits -/

/-- The digits in the order of their values. -/
def numerals : List Char :=
  ['0', '1', '2', '3', '4', '5', '6', '7', '8', '9', 'a', 'b', 'c', 'd', 'e', 'f']

/-- The value of a digit, letters in either case. -/
def digitValue (c : Char) : Nat := numerals.idxOf c.toLower

namespace Base

/-- The digits of a base, letters in either case. -/
def alphabet : Base → List Char
  | .bin => ['0', '1']
  | .oct => ['0', '1', '2', '3', '4', '5', '6', '7']
  | .dec => ['0', '1', '2', '3', '4', '5', '6', '7', '8', '9']
  | .hex => ['0', '1', '2', '3', '4', '5', '6', '7', '8', '9', 'a', 'b', 'c', 'd', 'e', 'f',
      'A', 'B', 'C', 'D', 'E', 'F']

/-- The marks that announce a base. Decimal digits have none. -/
def marks : Base → List (List Char)
  | .bin => [['0', 'b'], ['0', 'B']]
  | .oct => [['0', 'o'], ['0', 'O']]
  | .dec => []
  | .hex => [['0', 'x'], ['0', 'X']]

/-- One or more digits of a base. -/
structure Numeral (base : Base) (digits : List Char) : Prop where
  nonempty : digits ≠ []
  all : ∀ c ∈ digits, c ∈ base.alphabet

/-- The positional value of digits. -/
def positional (base : Base) (digits : List Char) : Nat :=
  Nat.ofDigits base.radix (digits.reverse.map digitValue)

variable {base : Base} {c : Char}

theorem digit?_of_mem (member : c ∈ base.alphabet) :
    base.digit? (.char c) = some (digitValue c) := by
  -- The alphabet is searched through its list, not through all characters.
  have table : base.alphabet.all fun d => base.digit? (.char d) = some (digitValue d) := by
    cases base <;> decide
  exact of_decide_eq_true (List.all_eq_true.mp table c member)

theorem toNat_of_digit? {value : Nat} (found : base.digit? (.char c) = some value) :
    c.toNat < 103 := by
  by_contra large
  have above : ∀ d : Char, d.toNat < 103 → ¬ c ≤ d := by
    intro d small le
    have := UInt32.le_iff_toNat_le.mp le
    exact absurd small (by simp only [Char.toNat] at *; omega)
  have digit : ¬ c ≤ '9' := above '9' (by decide)
  have letter : ¬ c ≤ 'f' := above 'f' (by decide)
  have capital : ¬ c ≤ 'F' := above 'F' (by decide)
  have beyond : ¬ 16 < base.radix := by cases base <;> decide
  simp [digit?, digit, letter, capital, beyond] at found

/-- What is no digit of a base has no value in it. -/
theorem digit?_of_not_mem (absent : c ∉ base.alphabet) : base.digit? (.char c) = none := by
  cases found : base.digit? (.char c) with
  | none => rfl
  | some value =>
    have table : ∀ n < 103, (base.digit? (.char (Char.ofNat n))).isSome = true →
        Char.ofNat n ∈ base.alphabet := by
      cases base <;> decide +kernel
    have member := table c.toNat (toNat_of_digit? found)
    rw [Char.ofNat_toNat, found] at member
    exact absurd (member rfl) absent

theorem positional_append (digits : List Char) :
    base.positional (digits ++ [c]) = base.positional digits * base.radix + digitValue c := by
  simp only [positional, List.reverse_append, List.reverse_singleton, List.singleton_append,
    List.map_cons, Nat.ofDigits_cons]
  rw [Nat.mul_comm, Nat.add_comm]

theorem ofMark?_of_mem (member : ['0', c] ∈ base.marks) : ofMark? (.char c) = some base := by
  cases base <;> simp [marks] at member <;> rcases member with rfl | rfl <;> rfl

theorem mem_marks_of_ofMark? {point : CodePoint} (announced : ofMark? point = some base) :
    ∃ c, point = .char c ∧ ['0', c] ∈ base.marks := by
  unfold ofMark? at announced
  split at announced <;> cases announced <;> exact ⟨_, rfl, by simp [marks]⟩

/-- A mark is a zero and one character. -/
theorem eq_of_mem_marks {mark : List Char} (member : mark ∈ base.marks) :
    ∃ c, mark = ['0', c] ∧ c ∉ dec.alphabet := by
  cases base <;> simp only [marks, List.mem_cons, List.not_mem_nil, or_false] at member
  all_goals
    rcases member with rfl | rfl <;> exact ⟨_, rfl, by decide⟩

end Base

namespace Literal

/-! ## Texts -/

/-- The texts of literals without white space around them, each with its base and its digits. -/
inductive Spells : Text → Base → List Char → Prop
  | plain {digits : List Char} (numeral : Base.dec.Numeral digits) :
      Spells (.ofChars digits) .dec digits
  | signed {sign : Char} {digits : List Char} (isSign : sign = '+' ∨ sign = '-')
      (numeral : Base.dec.Numeral digits) : Spells (.ofChars (sign :: digits)) .dec digits
  | marked {base : Base} {mark digits : List Char} (isMark : mark ∈ base.marks)
      (numeral : base.Numeral digits) : Spells (.ofChars (mark ++ digits)) base digits

/-- The literal of a text: a sign shows at its start. -/
def written (raw : Text) (base : Base) (digits : List Char) : Literal :=
  ⟨base, base.positional digits, raw.head? = some (.char '-'), raw⟩

variable {base : Base} {raw before text : Text} {digits : List Char}

/-! ## Reading digits -/

theorem firstBad?_eq_none_iff :
    firstBad? base before text = none ↔
      ∃ digits, text = .ofChars digits ∧ ∀ c ∈ digits, c ∈ base.alphabet := by
  induction text generalizing before with
  | nil => simp [firstBad?, Text.ofChars]
  | cons point rest ih =>
    cases point with
    | surrogate index => simp [firstBad?, Base.digit?, Text.cons_eq_ofChars_iff]
    | char c =>
      by_cases member : c ∈ base.alphabet
      · simp [firstBad?, Base.digit?_of_mem member, ih, member, Text.cons_eq_ofChars_iff]
      · simp [firstBad?, Base.digit?_of_not_mem member, member, Text.cons_eq_ofChars_iff]

theorem valueOf_eq_positional (all : ∀ c ∈ digits, c ∈ base.alphabet) :
    base.valueOf (.ofChars digits) = base.positional digits := by
  induction digits using List.reverseRecOn with
  | nil => rfl
  | append_singleton digits c ih =>
    have member : c ∈ base.alphabet := all c (by simp)
    have front := ih fun d inside => all d (by simp [inside])
    rw [Base.positional_append, ← front]
    simp [Base.valueOf, Base.digit?_of_mem member]

/-- Digits of a base are read to their value, unless there are too many of them. -/
theorem readDigits_of_numeral (numeral : base.Numeral digits) :
    readDigits base before (.ofChars digits) =
      if base = .dec ∧ Text.maxDigits < digits.length then .error (.tooLong digits.length)
      else .ok (base.positional digits) := by
  have nonempty : (Text.ofChars digits).isEmpty = false := by
    simpa [Text.ofChars] using numeral.nonempty
  simp only [readDigits, nonempty, Bool.false_eq_true, if_false,
    firstBad?_eq_none_iff.mpr ⟨digits, rfl, numeral.all⟩, valueOf_eq_positional numeral.all,
    Text.length_ofChars]

/-- Anything else is malformed. -/
theorem readDigits_of_not_numeral (other : ∀ digits, text = .ofChars digits → ¬ base.Numeral digits)
    (before : Text) : ∃ reason, readDigits base before text = .error (.malformed reason) := by
  unfold readDigits
  by_cases empty : text.isEmpty = true
  · exact ⟨_, by rw [if_pos empty]⟩
  · rw [if_neg empty]
    cases bad : firstBad? base before text with
    | some c => exact ⟨_, rfl⟩
    | none =>
      obtain ⟨digits, rfl, all⟩ := firstBad?_eq_none_iff.mp bad
      exact absurd ⟨by simpa [Text.ofChars] using empty, all⟩ (other digits rfl)

/-! ## Reading marks and signs -/

theorem marked?_eq_some_iff :
    marked? raw = some (base, text) ↔ ∃ mark ∈ base.marks, raw = .ofChars mark ++ text := by
  constructor
  · intro found
    unfold marked? at found
    split at found
    · rename_i point rest
      obtain ⟨other, announced, same⟩ := Option.map_eq_some_iff.mp found
      cases same
      obtain ⟨c, rfl, member⟩ := Base.mem_marks_of_ofMark? announced
      exact ⟨['0', c], member, rfl⟩
    · cases found
  · intro shape
    obtain ⟨mark, member, rfl⟩ := shape
    obtain ⟨c, rfl, -⟩ := Base.eq_of_mem_marks member
    simp [marked?, Base.ofMark?_of_mem member]

/-- Decimal digits hold no mark. -/
theorem marked?_of_numeral (numeral : Base.dec.Numeral digits) :
    marked? (.ofChars digits) = none := by
  cases found : marked? (.ofChars digits) with
  | none => rfl
  | some pair =>
    obtain ⟨base, rest⟩ := pair
    obtain ⟨mark, member, same⟩ := marked?_eq_some_iff.mp found
    obtain ⟨c, rfl, foreign⟩ := Base.eq_of_mem_marks member
    have inside : CodePoint.char c ∈ Text.ofChars digits := by simp [same]
    exact absurd (numeral.all c (Text.char_mem_ofChars.mp inside)) foreign

theorem marked?_cons_of_ne {c : CodePoint} (ne : c ≠ .char '0') (rest : Text) :
    marked? (c :: rest) = none := by
  unfold marked?
  split
  · rename_i same
    cases same
    exact absurd rfl ne
  · rfl

theorem not_sign_of_mem {c : Char} (member : c ∈ base.alphabet) : ¬ (c = '+' ∨ c = '-') := by
  have table : base.alphabet.all fun d => ¬ (d = '+' ∨ d = '-') := by
    cases base <;> decide
  exact of_decide_eq_true (List.all_eq_true.mp table c member)

theorem head?_ne_minus (numeral : base.Numeral digits) :
    (Text.ofChars digits).head? ≠ some (.char '-') := by
  intro sign
  have member := numeral.all '-' (Text.char_mem_ofChars.mp (List.mem_of_head? sign))
  exact not_sign_of_mem member (Or.inr rfl)

/-! ## Reading texts -/

theorem readDecimal_of_numeral (numeral : Base.dec.Numeral digits) :
    readDecimal (.ofChars digits) =
      (readDigits .dec [] (.ofChars digits)).map fun n => (false, n) := by
  cases digits with
  | nil => exact absurd rfl numeral.nonempty
  | cons c rest =>
    have digit := not_sign_of_mem (numeral.all c (by simp))
    simp only [Text.ofChars_cons, readDecimal, CodePoint.char.injEq, digit, if_false]

/-- A text of the grammar is read to its literal, unless it has too many decimal digits. -/
theorem ofTrimmed_of_spells (spells : Spells raw base digits) :
    ofTrimmed raw =
      if base = .dec ∧ Text.maxDigits < digits.length then .error (.tooLong digits.length)
      else .ok (written raw base digits) := by
  cases spells with
  | plain numeral =>
    have unsigned := head?_ne_minus numeral
    simp only [ofTrimmed, marked?_of_numeral numeral, readDecimal_of_numeral numeral,
      readDigits_of_numeral numeral]
    split
    · rfl
    · simp [Except.map, written, unsigned]
  | signed isSign numeral =>
    rename_i sign
    have unmarked : marked? (.ofChars (sign :: digits)) = none := by
      apply marked?_cons_of_ne
      rcases isSign with rfl | rfl <;> decide
    have minus : (CodePoint.char sign == .char '-') = decide (sign = '-') := by
      simp [BEq.beq]
    simp only [ofTrimmed, unmarked]
    simp only [Text.ofChars_cons, readDecimal, CodePoint.char.injEq, isSign, if_true,
      marked?_of_numeral numeral, readDigits_of_numeral numeral]
    split
    · rfl
    · simp [Except.map, written, minus]
  | marked isMark numeral =>
    rename_i mark
    have found : marked? (.ofChars (mark ++ digits)) = some (base, .ofChars digits) :=
      marked?_eq_some_iff.mpr ⟨mark, isMark, Text.ofChars_append mark digits⟩
    obtain ⟨c, rfl, -⟩ := Base.eq_of_mem_marks isMark
    simp only [ofTrimmed, found, readDigits_of_numeral numeral]
    split
    · rfl
    · simp [Except.map, written]

theorem ofTrimmed_of_short (spells : Spells raw base digits)
    (short : base = .dec → digits.length ≤ Text.maxDigits) :
    ofTrimmed raw = .ok (written raw base digits) := by
  have within : ¬ (base = .dec ∧ Text.maxDigits < digits.length) := by
    intro long
    have := short long.1
    omega
  rw [ofTrimmed_of_spells spells, if_neg within]

/-- What is neither digits nor a sign and digits is no decimal literal. -/
theorem readDecimal_of_not_spells (other : ∀ digits, ¬ Spells raw .dec digits) :
    ∃ reason, readDecimal raw = .error (.malformed reason) := by
  cases raw with
  | nil => exact ⟨.empty, rfl⟩
  | cons c rest =>
    by_cases isSign : c = .char '+' ∨ c = .char '-'
    · cases inner : marked? rest with
      | some pair => exact ⟨.signedMark, by simp [readDecimal, isSign, inner]⟩
      | none =>
        have bad : ∀ digits, rest = Text.ofChars digits → ¬ Base.dec.Numeral digits := by
          rintro digits rfl numeral
          rcases isSign with rfl | rfl
          · exact other digits (.signed (Or.inl rfl) numeral)
          · exact other digits (.signed (Or.inr rfl) numeral)
        obtain ⟨reason, failed⟩ := readDigits_of_not_numeral bad [c]
        exact ⟨reason, by simp [readDecimal, isSign, inner, failed, Except.map]⟩
    · have bad : ∀ digits, c :: rest = Text.ofChars digits → ¬ Base.dec.Numeral digits := by
        intro digits same numeral
        rw [same] at other
        exact other digits (.plain numeral)
      obtain ⟨reason, failed⟩ := readDigits_of_not_numeral bad []
      exact ⟨reason, by simp [readDecimal, isSign, failed, Except.map]⟩

/-- A text that is not of the grammar is malformed. -/
theorem ofTrimmed_of_not_spells (other : ∀ base digits, ¬ Spells raw base digits) :
    ∃ reason, ofTrimmed raw = .error (.malformed reason) := by
  unfold ofTrimmed
  cases found : marked? raw with
  | none =>
    obtain ⟨reason, failed⟩ := readDecimal_of_not_spells (other .dec)
    exact ⟨reason, Outcome.map_eq_error_iff.mpr failed⟩
  | some pair =>
    obtain ⟨base, rest⟩ := pair
    obtain ⟨mark, member, rfl⟩ := marked?_eq_some_iff.mp found
    have bad : ∀ digits, rest = .ofChars digits → ¬ base.Numeral digits := by
      rintro digits rfl numeral
      rw [← Text.ofChars_append] at other
      exact other base digits (.marked member numeral)
    obtain ⟨reason, failed⟩ :=
      readDigits_of_not_numeral bad ((.ofChars mark ++ rest).take 2).reverse
    exact ⟨reason, Outcome.map_eq_error_iff.mpr failed⟩

end Literal

/-! ## The reader -/

section Reader

variable {text : Text} {location : Option Location} {base : Base} {digits : List Char}

/-- A text that is read. -/
theorem parseLiteral_of_spells
    (spells : Literal.Spells text.trim base digits)
    (short : base = .dec → digits.length ≤ Text.maxDigits) :
    parseLiteral text location = .ok (.written text.trim base digits) := by
  rw [parseLiteral, Literal.parse, Literal.ofTrimmed_of_short spells short]
  rfl

/-- A decimal text that is too long. -/
theorem parseLiteral_of_long
    (spells : Literal.Spells text.trim .dec digits)
    (long : Text.maxDigits < digits.length) :
    parseLiteral text location = .error (.fault (.numeralTooLong digits.length)) := by
  rw [parseLiteral, Literal.parse, Literal.ofTrimmed_of_spells spells, if_pos ⟨rfl, long⟩]
  rfl

/-- A text that is no literal. -/
theorem parseLiteral_of_not_spells
    (other : ∀ base digits, ¬ Literal.Spells text.trim base digits) :
    ∃ reason,
      parseLiteral text location = .error (.located location (.invalidLiteral text reason)) := by
  obtain ⟨reason, failed⟩ := Literal.ofTrimmed_of_not_spells other
  exact ⟨reason, by rw [parseLiteral, Literal.parse, failed]; rfl⟩

/-- What a text can be, and what becomes of it. -/
theorem parseLiteral_cases (text : Text) (location : Option Location) :
    (∃ base digits, Literal.Spells text.trim base digits ∧
        (base = .dec → digits.length ≤ Text.maxDigits) ∧
        parseLiteral text location = .ok (.written text.trim base digits)) ∨
      (∃ digits, Literal.Spells text.trim .dec digits ∧
        Text.maxDigits < digits.length ∧
        parseLiteral text location = .error (.fault (.numeralTooLong digits.length))) ∨
      ((∀ base digits, ¬ Literal.Spells text.trim base digits) ∧
        ∃ reason, parseLiteral text location =
          .error (.located location (.invalidLiteral text reason))) := by
  by_cases spelled : ∃ base digits, Literal.Spells text.trim base digits
  · obtain ⟨base, digits, spells⟩ := spelled
    by_cases long : base = .dec ∧ Text.maxDigits < digits.length
    · obtain ⟨rfl, long⟩ := long
      exact Or.inr (Or.inl ⟨digits, spells, long, parseLiteral_of_long spells long⟩)
    · have short : base = .dec → digits.length ≤ Text.maxDigits := by
        intro decimal
        by_contra above
        exact long ⟨decimal, Nat.lt_of_not_le above⟩
      exact Or.inl ⟨base, digits, spells, short, parseLiteral_of_spells spells short⟩
  · have other : ∀ base digits, ¬ Literal.Spells text.trim base digits :=
      fun base digits spells => spelled ⟨base, digits, spells⟩
    exact Or.inr (Or.inr ⟨other, parseLiteral_of_not_spells other⟩)

theorem parseLiteral_eq_ok_iff {l : Literal} :
    parseLiteral text location = .ok l ↔
      ∃ base digits, Literal.Spells text.trim base digits ∧
        (base = .dec → digits.length ≤ Text.maxDigits) ∧
        l = .written text.trim base digits := by
  constructor
  · intro read
    rcases parseLiteral_cases text location with
      ⟨base, digits, spells, short, result⟩ | ⟨_, _, _, result⟩ | ⟨_, _, result⟩
    · rw [read] at result
      cases result
      exact ⟨base, digits, spells, short, rfl⟩
    · rw [read] at result
      cases result
    · rw [read] at result
      cases result
  · rintro ⟨base, digits, spells, short, rfl⟩
    exact parseLiteral_of_spells spells short

theorem parseLiteral_eq_tooLong_iff {count : Nat} :
    parseLiteral text location = .error (.fault (.numeralTooLong count)) ↔
      ∃ digits, Literal.Spells text.trim .dec digits ∧
        Text.maxDigits < digits.length ∧ count = digits.length := by
  constructor
  · intro failed
    rcases parseLiteral_cases text location with
      ⟨_, _, _, _, result⟩ | ⟨digits, spells, long, result⟩ | ⟨_, _, result⟩
    · rw [failed] at result
      cases result
    · rw [failed] at result
      cases result
      exact ⟨digits, spells, long, rfl⟩
    · rw [failed] at result
      cases result
  · rintro ⟨digits, spells, long, rfl⟩
    exact parseLiteral_of_long spells long

theorem parseLiteral_malformed_iff :
    (∃ reason,
        parseLiteral text location = .error (.located location (.invalidLiteral text reason))) ↔
      ¬ ∃ base digits, Literal.Spells text.trim base digits := by
  constructor
  · rintro ⟨reason, failed⟩ ⟨base, digits, spells⟩
    rcases parseLiteral_cases text location with
      ⟨_, _, _, _, result⟩ | ⟨_, _, _, result⟩ | ⟨other, _⟩
    · rw [failed] at result
      cases result
    · rw [failed] at result
      cases result
    · exact other base digits spells
  · intro other
    exact parseLiteral_of_not_spells fun base digits spells => other ⟨base, digits, spells⟩

/-- A text is read as the literal that it spells if it is of the grammar and not too long. If it is
too long, the number of its digits is the complaint, and any other text is reported as malformed. -/
theorem parseLiteral_grammar (text : Text) (location : Option Location) :
    (∀ l, parseLiteral text location = .ok l ↔
        ∃ base digits, Literal.Spells text.trim base digits ∧
          (base = .dec → digits.length ≤ 4300) ∧
          l = .written text.trim base digits) ∧
      (∀ count, parseLiteral text location = .error (.fault (.numeralTooLong count)) ↔
        ∃ digits, Literal.Spells text.trim .dec digits ∧
          4300 < digits.length ∧ count = digits.length) ∧
      ((∃ reason,
          parseLiteral text location = .error (.located location (.invalidLiteral text reason))) ↔
        ¬ ∃ base digits, Literal.Spells text.trim base digits) := by
  refine ⟨?_, ?_, parseLiteral_malformed_iff⟩
  · intro l
    exact parseLiteral_eq_ok_iff
  · intro count
    exact parseLiteral_eq_tooLong_iff

-- A mark is looked for once, and a sign before it is refused.
example : Literal.parse " 0X0b1\n" = .ok ⟨.hex, 177, false, "0X0b1"⟩ := by decide +kernel

example : Literal.parse "-0x1" = .error (.malformed .signedMark) := by decide +kernel

example : Literal.parse "00x1" = .error (.malformed (.badDigit (.char 'x') .dec)) := by
  decide +kernel

end Reader

end Assembler
