import Assembler.Proofs.LiteralGrammar

/-!
# Written numbers

The digits that a number is written with are digits of its base, and their positional value is the
number. So the decimal text of an integer is the text of a literal, which is read back to the
integer. The only condition is that the number is short enough to be written. The zeros that fill a
hexadecimal column change no number either.
-/

namespace Assembler

namespace Text

theorem isWritable_iff {n : Int} : isWritable n = true ↔ n.natAbs < 10 ^ maxDigits := by
  -- The power itself is too large to be computed.
  unfold isWritable digitLimit
  generalize maxDigits = digits
  exact decide_eq_true_iff

theorem decimal?_of_isWritable {n : Int} (short : isWritable n = true) :
    decimal? n = some (ofString (decimal n)) :=
  if_pos short

theorem decimal?_of_not_isWritable {n : Int} (long : isWritable n = false) : decimal? n = none :=
  if_neg (by simp [long])

/-- The numbers that can be written are those with at most so many digits. -/
theorem isWritable_iff_length {n : Int} :
    isWritable n = true ↔ (Nat.toDigits 10 n.natAbs).length ≤ maxDigits := by
  rw [isWritable_iff, Nat.length_toDigits_le_iff (by decide) (by decide)]

theorem dropWhile_isBlank_eq_self {text : Text} (solid : ∀ c ∈ text, isBlank c = false) :
    text.dropWhile isBlank = text := by
  cases text with
  | nil => rfl
  | cons c rest => exact List.dropWhile_cons_of_neg (by simp [solid c (by simp)])

/-- A text without white space is not trimmed. -/
theorem trim_eq_self {text : Text} (solid : ∀ c ∈ text, isBlank c = false) : text.trim = text := by
  have reversed : ∀ c ∈ text.reverse, isBlank c = false := by
    intro c member
    exact solid c (List.mem_reverse.mp member)
  rw [trim, dropWhile_isBlank_eq_self solid, dropWhile_isBlank_eq_self reversed,
    List.reverse_reverse]

end Text

/-! ## Digits of numbers -/

namespace Base

/-- Digits of a base that stand for a number. -/
structure Renders (base : Base) (digits : List Char) (n : Nat) : Prop where
  numeral : base.Numeral digits
  value : base.positional digits = n

theorem digitChar_mem (base : Base) {n : Nat} (below : n < base.radix) :
    n.digitChar ∈ base.alphabet ∧ digitValue n.digitChar = n := by
  have table : ∀ d < base.radix, d.digitChar ∈ base.alphabet ∧ digitValue d.digitChar = d := by
    cases base <;> decide +kernel
  exact table n below

theorem renders_toDigits (base : Base) (n : Nat) : base.Renders (Nat.toDigits base.radix n) n := by
  have two : 1 < base.radix := by cases base <;> decide
  induction n using Nat.strong_induction_on with
  | _ n ih =>
    by_cases below : n < base.radix
    · obtain ⟨member, value⟩ := base.digitChar_mem below
      rw [Nat.toDigits_of_lt_base below]
      exact ⟨⟨by simp, by simpa using member⟩, by simp [positional, value]⟩
    · -- The last digit is the remainder; the others are those of the quotient.
      have smaller : n / base.radix < n := Nat.div_lt_self (by omega) two
      obtain ⟨numeral, value⟩ := ih (n / base.radix) smaller
      obtain ⟨member, last⟩ := base.digitChar_mem (Nat.mod_lt n (by omega : 0 < base.radix))
      rw [Nat.toDigits_of_base_le two (by omega)]
      refine ⟨⟨by simp, ?_⟩, ?_⟩
      · intro c inside
        rcases List.mem_append.mp inside with front | back
        · exact numeral.all c front
        · rw [List.mem_singleton.mp back]
          exact member
      · rw [positional_append, value, last, Nat.div_add_mod']

/-- Hexadecimal digits may be capital letters. -/
theorem Renders.capitals {digits : List Char} {n : Nat} (renders : hex.Renders digits n) :
    hex.Renders (digits.map Char.toUpper) n := by
  have table : ∀ c ∈ hex.alphabet,
      c.toUpper ∈ hex.alphabet ∧ digitValue c.toUpper = digitValue c := by
    have all : hex.alphabet.all fun c =>
        c.toUpper ∈ hex.alphabet ∧ digitValue c.toUpper = digitValue c := by
      decide
    exact fun c inside => of_decide_eq_true (List.all_eq_true.mp all c inside)
  refine ⟨⟨by simpa using renders.numeral.nonempty, ?_⟩, ?_⟩
  · intro c inside
    obtain ⟨d, member, rfl⟩ := List.mem_map.mp inside
    exact (table d (renders.numeral.all d member)).1
  · rw [← renders.value, positional, positional, ← List.map_reverse, List.map_map]
    congr 1
    apply List.map_congr_left
    intro c inside
    exact (table c (renders.numeral.all c (List.mem_reverse.mp inside))).2

/-- Leading zeros change no number. -/
theorem Renders.padded {base : Base} {digits : List Char} {n : Nat}
    (renders : base.Renders digits n) (count : Nat) : base.Renders (List.replicate count '0' ++ digits) n := by
  have zero : '0' ∈ base.alphabet := by cases base <;> decide
  refine ⟨⟨by simp [renders.numeral.nonempty], ?_⟩, ?_⟩
  · intro c inside
    rcases List.mem_append.mp inside with front | back
    · rw [List.eq_of_mem_replicate front]
      exact zero
    · exact renders.numeral.all c back
  · have value : digitValue '0' = 0 := by decide
    rw [← renders.value, positional, positional, List.reverse_append, List.map_append,
      List.reverse_replicate, List.map_replicate, value, Nat.ofDigits_append_replicate_zero]

end Base

/-! ## Texts of numbers -/

namespace Text

theorem toList_decimal_negSucc (n : Nat) :
    (decimal (.negSucc n)).toList = '-' :: Nat.toDigits 10 (n + 1) := by
  simp [decimal, decimalNat]

theorem mem_decimal {c : Char} {n : Int} (member : c ∈ (decimal n).toList) :
    c ∈ '-' :: Base.dec.alphabet := by
  have digits := fun m => (Base.dec.renders_toDigits m).numeral.all c
  cases n with
  | ofNat m =>
    rw [decimal, decimalNat, String.toList_ofList] at member
    exact List.mem_cons_of_mem _ (digits m member)
  | negSucc m =>
    rw [toList_decimal_negSucc] at member
    exact List.mem_cons.mpr ((List.mem_cons.mp member).imp id (digits (m + 1)))

/-- Different integers have different decimal texts. -/
theorem decimal_injective : Function.Injective decimal := by
  have digits : ∀ {m n : Nat}, Nat.toDigits 10 m = Nat.toDigits 10 n → m = n := by
    intro m n same
    rw [← (Base.dec.renders_toDigits m).value, ← (Base.dec.renders_toDigits n).value]
    exact congrArg Base.dec.positional same
  have unsigned : ∀ {m n : Nat}, Nat.toDigits 10 m ≠ '-' :: Nat.toDigits 10 n := by
    intro m n same
    have first := Literal.head?_ne_minus (Base.dec.renders_toDigits m).numeral
    rw [show Nat.toDigits Base.dec.radix m = _ from same] at first
    exact first rfl
  intro a b same
  have texts := congrArg String.toList same
  cases a with
  | ofNat m =>
    cases b with
    | ofNat n => exact congrArg Int.ofNat (digits (by simpa [decimal, decimalNat] using texts))
    | negSucc n => exact absurd (by simpa [decimal, decimalNat] using texts) unsigned
  | negSucc m =>
    cases b with
    | ofNat n => exact absurd (by simpa [decimal, decimalNat] using texts.symm) unsigned
    | negSucc n =>
      have next : m + 1 = n + 1 := digits (by simpa [decimal, decimalNat] using texts)
      exact congrArg Int.negSucc (Nat.succ.inj next)

/-- The digits of hexadecimal texts. -/
def capitals : List Char :=
  ['0', '1', '2', '3', '4', '5', '6', '7', '8', '9', 'A', 'B', 'C', 'D', 'E', 'F']

theorem mem_capitals_of_mem_hexDigits {n : Nat} {c : Char} (member : c ∈ hexDigits n) :
    c ∈ capitals := by
  have table : Base.hex.alphabet.all fun d => d.toUpper ∈ capitals := by decide
  obtain ⟨d, inside, rfl⟩ := List.mem_map.mp member
  have digit := (Base.hex.renders_toDigits n).numeral.all d inside
  exact of_decide_eq_true (List.all_eq_true.mp table d digit)

variable {width n : Nat}

theorem toList_hexPadded :
    (hexPadded width n).toList =
      List.replicate (width - (hexDigits n).length) '0' ++ hexDigits n := by
  rw [← Int.ofNat_eq_natCast, hexPadded, fill, String.toList_append, String.toList_ofList,
    String.toList_ofList]

theorem mem_capitals_of_mem_hexPadded {c : Char} (member : c ∈ (hexPadded width n).toList) :
    c ∈ capitals := by
  rw [toList_hexPadded] at member
  rcases List.mem_append.mp member with front | back
  · rw [List.eq_of_mem_replicate front]
    decide
  · exact mem_capitals_of_mem_hexDigits back

theorem renders_hexPadded (width n : Nat) : Base.hex.Renders (hexPadded width n).toList n := by
  rw [toList_hexPadded]
  exact (Base.hex.renders_toDigits n).capitals.padded _

theorem toList_address (n : Int) :
    (address n).toList = '0' :: 'x' :: (hexPadded 4 n).toList := by
  simp [address]

/-- Different addresses have different texts. -/
theorem address_injective : Function.Injective fun n : Nat => address n := by
  intro m n same
  have texts := congrArg String.toList same
  simp only [toList_address, List.cons.injEq, true_and] at texts
  rw [← (renders_hexPadded 4 m).value, texts, (renders_hexPadded 4 n).value]

/-- A number that is not too large fills its column. -/
theorem length_hexPadded (pos : 0 < width) (below : n < 16 ^ width) :
    (hexPadded width n).toList.length = width := by
  have fits : (Nat.toDigits 16 n).length ≤ width :=
    (Nat.length_toDigits_le_iff (by decide) pos).mpr below
  rw [toList_hexPadded, List.length_append, List.length_replicate, hexDigits, List.length_map]
  omega

end Text

namespace Literal

variable {base : Base} {raw : Text} {digits : List Char}

theorem isBlank_of_mem_alphabet {c : Char} (member : c ∈ base.alphabet) :
    Text.isBlank (.char c) = false := by
  have table : base.alphabet.all fun d => Text.isBlank (.char d) = false := by
    cases base <;> decide
  exact of_decide_eq_true (List.all_eq_true.mp table c member)

theorem isBlank_of_mem_mark {mark : List Char} (isMark : mark ∈ base.marks) {c : Char}
    (member : c ∈ mark) : Text.isBlank (.char c) = false := by
  have table : base.marks.all fun mark => mark.all fun d => Text.isBlank (.char d) = false := by
    cases base <;> decide
  exact of_decide_eq_true (List.all_eq_true.mp (List.all_eq_true.mp table mark isMark) c member)

/-- There is no white space in the text of a literal. -/
theorem Spells.solid (spells : Spells raw base digits) : ∀ c ∈ raw, Text.isBlank c = false := by
  cases spells with
  | plain numeral =>
    rw [Text.forall_mem_ofChars]
    intro c inside
    exact isBlank_of_mem_alphabet (numeral.all c inside)
  | signed isSign numeral =>
    rw [Text.forall_mem_ofChars]
    intro c inside
    rcases List.mem_cons.mp inside with rfl | later
    · rcases isSign with rfl | rfl <;> decide
    · exact isBlank_of_mem_alphabet (numeral.all c later)
  | marked isMark numeral =>
    rw [Text.forall_mem_ofChars]
    intro c inside
    rcases List.mem_append.mp inside with front | back
    · exact isBlank_of_mem_mark isMark front
    · exact isBlank_of_mem_alphabet (numeral.all c back)

/-- A text of the grammar that is not too long is read as it stands. -/
theorem parse_of_spells (spells : Spells raw base digits)
    (short : base = .dec → digits.length ≤ Text.maxDigits) :
    parse raw = .ok (written raw base digits) := by
  rw [parse, Text.trim_eq_self spells.solid, ofTrimmed_of_short spells short]

/-- The decimal text of an integer is read back to the integer. -/
theorem parse_decimal {n : Int} (short : Text.isWritable n = true) :
    parse (Text.decimal n) = .ok (ofInt n) := by
  obtain ⟨numeral, value⟩ := Base.dec.renders_toDigits n.natAbs
  have within : Base.dec = .dec → (Nat.toDigits 10 n.natAbs).length ≤ Text.maxDigits :=
    fun _ => Text.isWritable_iff_length.mp short
  cases n with
  | ofNat m =>
    have read := parse_of_spells (.plain numeral) within
    have unsigned : (Text.ofChars (Nat.toDigits 10 m)).head? ≠ some (.char '-') :=
      head?_ne_minus numeral
    have positive : ¬ Int.ofNat m < 0 := Int.not_lt.mpr (Int.natCast_nonneg m)
    have text : Text.ofChars (Nat.toDigits 10 m) = Text.decimal (.ofNat m) := by
      simp [Text.decimal, Text.decimalNat, Text.ofString]
    have same : written (.ofChars (Nat.toDigits 10 m)) .dec (Nat.toDigits 10 m) =
        ofInt (.ofNat m) := by
      simp only [written, ofInt, Literal.mk.injEq]
      exact ⟨trivial, congrArg Nat.cast value, by simp only [unsigned, positive], text⟩
    rw [← text, ← same]
    exact read
  | negSucc m =>
    have read := parse_of_spells (.signed (Or.inr rfl) numeral) within
    have text : Text.ofChars ('-' :: Nat.toDigits 10 (m + 1)) = Text.decimal (.negSucc m) := by
      simp [Text.decimal, Text.decimalNat, Text.ofString]
    have same : written (.ofChars ('-' :: Nat.toDigits 10 (m + 1))) .dec (Nat.toDigits 10 (m + 1)) =
        ofInt (.negSucc m) := by
      simp only [written, ofInt, Literal.mk.injEq]
      exact ⟨trivial, congrArg Nat.cast value, by simp [Int.negSucc_lt_zero], text⟩
    rw [← text, ← same]
    exact read

/-- A literal has no spelling exactly if it is a decimal one without a text that has too many
digits. -/
theorem spelling?_eq_none_iff {l : Literal} :
    l.spelling? = none ↔
      l.text = [] ∧ l.base = .dec ∧ Text.isWritable l.magnitude = false := by
  unfold spelling?
  by_cases untitled : l.text = []
  · cases base : l.base <;> simp [untitled, Text.decimal?]
  · simp [untitled]

end Literal

end Assembler
