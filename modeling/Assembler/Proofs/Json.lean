import Assembler.Json.Printer
import Assembler.Json.Reader
import Assembler.Proofs.Encoding
import Assembler.Proofs.Numeral

/-!
# Reading what was written

A value is read back from its text: items and fields stand on lines of their own, and white space is
skipped between tokens. The strings are what needs care. Code points that are written as escapes are
read one by one, but two escapes that make up a pair are read as one character. So a string comes
back only if it has no such halves side by side. A string that was read from a text never has.

Main statements: a value without floating point numbers, with integers that can be written, names
that differ and joined strings is what its text is read back to. All strings of a value that was
read are joined.
-/

namespace Assembler.Json

/-! ## Escapes -/

/-- Four hexadecimal digits of a unit are read back. -/
theorem exists_unitEscape {n : Nat} (small : n < 0x10000) :
    ∃ a b c d, (unitEscape n).toList = ['\\', 'u', a, b, c, d] ∧ unit? a b c d = some n := by
  have renders := (Base.hex.renders_toDigits n).padded (4 - (Nat.toDigits 16 n).length)
  have short : (Nat.toDigits 16 n).length ≤ 4 :=
    (Nat.length_toDigits_le_iff (by decide) (by decide)).mpr small
  have digits : (unitEscape n).toList = '\\' :: 'u' ::
      (List.replicate (4 - (Nat.toDigits 16 n).length) '0' ++ Nat.toDigits 16 n) := by
    simp [unitEscape, Text.smallHex, Text.fill]
  have four : (List.replicate (4 - (Nat.toDigits 16 n).length) '0' ++
      Nat.toDigits 16 n).length = 4 := by
    rw [List.length_append, List.length_replicate]
    omega
  rw [digits]
  obtain ⟨a, b, c, d, same⟩ := List.length_eq_four.mp four
  rw [same]
  have numeral := renders.numeral.all
  have value := renders.value
  rw [show Base.hex.radix = 16 from rfl, same] at numeral value
  refine ⟨a, b, c, d, rfl, ?_⟩
  have known : (Text.ofChars [a, b, c, d]).all (fun digit => (Base.hex.digit? digit).isSome) := by
    refine List.all_eq_true.mpr (Text.forall_mem_ofChars.mpr ?_)
    intro digit member
    rw [Base.digit?_of_mem (numeral digit member)]
    rfl
  rw [unit?, if_pos known, Literal.valueOf_eq_positional numeral, value]

/-- How a code point is written in a string: as it is, as a letter, by the number of its UTF-16 unit
or by those of a pair. -/
inductive Escapes : CodePoint → List Char → Prop
  | plain {c : Char} (visible : ¬ c.toNat < 0x20) (quote : c ≠ '"') (backslash : c ≠ '\\') :
      Escapes (.char c) [c]
  | letter {c l : Char} (known : escaped? l = some c) : Escapes (.char c) ['\\', l]
  | unit {n : Nat} {a b c d : Char} (value : unit? a b c d = some n) :
      Escapes (.ofUnit n) ['\\', 'u', a, b, c, d]
  | pair {first second : Nat} {a b c d e f g h : Char} (value : unit? a b c d = some first)
      (next : unit? e f g h = some second) (isFirst : 0xD800 ≤ first ∧ first < 0xDC00)
      (isSecond : 0xDC00 ≤ second ∧ second < 0xE000) :
      Escapes (.char (Char.ofNat (0x10000 + (first - 0xD800) * 0x400 + (second - 0xDC00))))
        ['\\', 'u', a, b, c, d, '\\', 'u', e, f, g, h]

theorem Escapes.of_unit {n : Nat} (small : n < 0x10000) :
    Escapes (.ofUnit n) (unitEscape n).toList := by
  obtain ⟨a, b, c, d, digits, value⟩ := exists_unitEscape small
  rw [digits]
  exact .unit value

theorem ofUnit_surrogate (index : Fin 0x800) :
    CodePoint.ofUnit (0xD800 + index) = .surrogate index := by
  have below := index.isLt
  rw [CodePoint.ofUnit, dif_pos ⟨by omega, by omega⟩]
  exact congrArg CodePoint.surrogate (Fin.ext (Nat.add_sub_cancel_left ..))

theorem toNat_valid (c : Char) : c.toNat < 0xD800 ∨ 0xDFFF < c.toNat ∧ c.toNat < 0x110000 :=
  c.valid

theorem ofUnit_toNat (c : Char) : CodePoint.ofUnit c.toNat = .char c := by
  have valid := toNat_valid c
  rw [CodePoint.ofUnit, dif_neg (by omega), Char.ofNat_toNat]

/-- Every code point is written in one of these ways. -/
theorem escapes (point : CodePoint) : Escapes point (escape point).toList := by
  cases point with
  | surrogate index =>
    have below := index.isLt
    have unit := Escapes.of_unit (n := 0xD800 + index) (by omega)
    rwa [ofUnit_surrogate] at unit
  | char c =>
    have valid := toNat_valid c
    simp only [escape, escapeChar, beq_iff_eq, Bool.and_eq_true, decide_eq_true_eq]
    split
    · subst c
      exact .letter rfl
    split
    · subst c
      exact .letter rfl
    split
    · subst c
      exact .letter rfl
    split
    · subst c
      exact .letter rfl
    split
    · subst c
      exact .letter rfl
    split
    · rename_i number
      rw [← Char.ofNat_toNat c, number]
      exact .letter rfl
    split
    · rename_i number
      rw [← Char.ofNat_toNat c, number]
      exact .letter rfl
    split
    · rename_i quote backslash _ _ _ _ _ visible
      rw [String.toList_ofList]
      exact .plain (by omega) quote backslash
    split
    · rename_i small
      have unit := Escapes.of_unit small
      rwa [ofUnit_toNat] at unit
    · rename_i large
      obtain ⟨rest, same⟩ : ∃ rest, c.toNat = 0x10000 + rest := ⟨c.toNat - 0x10000, by omega⟩
      rw [same, Nat.add_sub_cancel_left]
      obtain ⟨_, _, _, _, first, value⟩ :=
        exists_unitEscape (n := 0xD800 + rest / 0x400) (by omega)
      obtain ⟨_, _, _, _, second, next⟩ :=
        exists_unitEscape (n := 0xDC00 + rest % 0x400) (by omega)
      have pair := Escapes.pair value next (by omega) (by omega)
      rw [Nat.add_sub_cancel_left, Nat.add_sub_cancel_left, Nat.add_assoc, Nat.div_add_mod',
        ← same, Char.ofNat_toNat] at pair
      rwa [String.toList_append, first, second]

/-! ## Strings -/

theorem isFirst_ofUnit {n : Nat} : (CodePoint.ofUnit n).IsFirst ↔ 0xD800 ≤ n ∧ n < 0xDC00 := by
  unfold CodePoint.ofUnit CodePoint.IsFirst
  split <;> grind

theorem isSecond_ofUnit {n : Nat} : (CodePoint.ofUnit n).IsSecond ↔ 0xDC00 ≤ n ∧ n < 0xE000 := by
  unfold CodePoint.ofUnit CodePoint.IsSecond
  split <;> grind

theorem ne_u_of_escaped? {l c : Char} (known : escaped? l = some c) : l ≠ 'u' := by
  rintro rfl
  cases known

/-- What is written for a code point is no second half of a pair unless the code point is. -/
theorem Escapes.second {point : CodePoint} {text : List Char} (escapes : Escapes point text)
    (single : ¬ point.IsSecond) (tail : List Char) : Json.second (text ++ tail) = .none := by
  cases escapes with
  | plain visible quote backslash => simp [Json.second, backslash]
  | letter known =>
    simp [Json.second, ne_u_of_escaped? known]
  | unit value =>
    rw [isSecond_ofUnit] at single
    cases tail with
    | nil => rfl
    | cons e rest => simp [Json.second, value, single]
  | pair value next isFirst isSecond =>
    simp [Json.second, value]
    omega

/-- What is written for a code point is read back to it. -/
theorem Escapes.stringBody {point : CodePoint} {text tail : List Char}
    (escapes : Escapes point text) (more : tail ≠ [])
    (single : point.IsFirst → Json.second tail = .none) (start fuel : Nat) (done : Text) :
    stringBody start (fuel + 1) done (text ++ tail) =
      Json.stringBody start fuel (point :: done) tail := by
  cases escapes with
  | plain visible quote backslash => simp [Json.stringBody, visible, backslash]
  | letter known => simp [Json.stringBody, known, ne_u_of_escaped? known]
  | unit value =>
    obtain ⟨e, rest, rfl⟩ := List.exists_cons_of_ne_nil more
    rw [isFirst_ofUnit] at single
    simp only [List.cons_append, List.nil_append, Json.stringBody, value]
    split
    · rename_i isFirst
      rw [single isFirst]
    · rfl
  | pair value next isFirst isSecond =>
    obtain ⟨e, rest, rfl⟩ := List.exists_cons_of_ne_nil more
    simp only [List.cons_append, List.nil_append, Json.stringBody, value, isFirst, Json.second,
      next, isSecond]
    rfl

theorem Escapes.ne_nil {point : CodePoint} {text : List Char} (escapes : Escapes point text) :
    text ≠ [] := by
  cases escapes <;> simp

/-- The characters of a text in a string. -/
def escapedChars (t : Text) : List Char := t.flatMap fun point => (escape point).toList

theorem length_le_escapedChars (t : Text) : t.length ≤ (escapedChars t).length := by
  induction t with
  | nil => rfl
  | cons point rest ih =>
    have some := List.length_pos_iff.mpr (escapes point).ne_nil
    rw [escapedChars, List.flatMap_cons, List.length_append, List.length_cons]
    unfold escapedChars at ih
    omega

/-- The body of a string is read back up to its closing quote. -/
theorem stringBody_escapedChars {t : Text} (joined : t.Joined) (start : Nat) {fuel : Nat}
    (enough : t.length < fuel) (done : Text) (rest : List Char) :
    stringBody start fuel done (escapedChars t ++ '"' :: rest) = .ok (done.reverse ++ t, rest) := by
  induction t generalizing fuel done with
  | nil =>
    obtain ⟨fuel, rfl⟩ := Nat.exists_eq_add_one_of_ne_zero (by omega : fuel ≠ 0)
    simp [escapedChars, stringBody]
  | cons point t ih =>
    obtain ⟨fuel, rfl⟩ := Nat.exists_eq_add_one_of_ne_zero (by omega : fuel ≠ 0)
    have later : Text.Joined t := List.IsChain.tail joined
    have single : point.IsFirst → second (escapedChars t ++ '"' :: rest) = .none := by
      intro isFirst
      cases t with
      | nil => rfl
      | cons next t =>
        have apart := (List.isChain_cons_cons.mp joined).1
        rw [escapedChars, List.flatMap_cons, List.append_assoc]
        exact (escapes next).second (fun isSecond => apart ⟨isFirst, isSecond⟩) _
    have step := (escapes point).stringBody (by simp) single start fuel done
    rw [escapedChars, List.flatMap_cons, List.append_assoc]
    rw [escapedChars] at step
    rw [step, ← escapedChars, ih later (by simpa using enough), List.reverse_cons,
      List.append_assoc]
    rfl

/-- A string is read back from its text. -/
theorem readString_escapedChars {t : Text} (joined : t.Joined) (rest : List Char) :
    readString (escapedChars t ++ '"' :: rest) = .ok (t, rest) := by
  have length := length_le_escapedChars t
  rw [readString, stringBody_escapedChars joined _ (by simp; omega)]
  rfl

theorem toList_quote (t : Text) : (quote t).toList = '"' :: (escapedChars t ++ ['"']) := by
  simp [quote, escapedChars]

/-! ## Integers -/

theorem isDigit_of_mem {c : Char} (member : c ∈ Base.dec.alphabet) : c.isDigit = true := by
  have table : Base.dec.alphabet.all Char.isDigit = true := by decide
  exact List.all_eq_true.mp table c member

theorem renders_decimal (n : Nat) : Base.dec.Renders (Nat.toDigits 10 n) n :=
  Base.dec.renders_toDigits n

/-- The first digit of a positive number is no zero. -/
theorem head?_toDigits {n : Nat} (pos : 0 < n) : (Nat.toDigits 10 n).head? ≠ some '0' := by
  induction n using Nat.strong_induction_on with
  | _ n ih =>
    by_cases below : n < 10
    · have table : ∀ d < 10, 0 < d → (Nat.toDigits 10 d).head? ≠ some '0' := by decide
      exact table n below pos
    · have first := ih (n / 10) (by omega) (by omega)
      have digits := Nat.toDigits_ne_nil (n := n / 10) (b := 10)
      rw [Nat.toDigits_of_base_le (by decide) (by omega), List.head?_append_of_ne_nil _ digits]
      exact first

/-- What may follow a value in a text that goes on with another line. -/
def Ends (rest : List Char) : Prop := ∃ c tail, rest = c :: tail ∧ (c = ',' ∨ c = '\n')

theorem spanDigits_append {digits rest : List Char} (all : ∀ c ∈ digits, c ∈ Base.dec.alphabet)
    (ends : Ends rest) : spanDigits (digits ++ rest) = (digits, rest) := by
  obtain ⟨c, tail, rfl, isEnd⟩ := ends
  have other : ¬ c.isDigit = true := by rcases isEnd with rfl | rfl <;> decide
  have each : ∀ d ∈ digits, d.isDigit = true := fun d member => isDigit_of_mem (all d member)
  rw [spanDigits, List.takeWhile_append_of_pos each, List.dropWhile_append_of_pos each,
    List.takeWhile_cons_of_neg other, List.dropWhile_cons_of_neg other, List.append_nil]

/-- The digits of a number are its whole part. -/
theorem wholePart?_toDigits (n : Nat) {rest : List Char} (ends : Ends rest) :
    wholePart? (Nat.toDigits 10 n ++ rest) = some (Nat.toDigits 10 n, rest) := by
  have numeral := (renders_decimal n).numeral
  rcases Nat.eq_zero_or_pos n with rfl | pos
  · rfl
  · have span := spanDigits_append numeral.all ends
    have first := head?_toDigits pos
    generalize Nat.toDigits 10 n = digits at numeral span first ⊢
    obtain ⟨c, others, rfl⟩ := List.exists_cons_of_ne_nil numeral.nonempty
    have isDigit := isDigit_of_mem (numeral.all c List.mem_cons_self)
    have nonzero : c ≠ '0' := by simpa using first
    rw [List.cons_append] at span ⊢
    simp [wholePart?, isDigit, span]

theorem digitsValue_toDigits (n : Nat) : digitsValue (Nat.toDigits 10 n) = n := by
  have renders := renders_decimal n
  rw [digitsValue, Literal.valueOf_eq_positional renders.numeral.all, renders.value]

/-- Digits with or without a sign are read as an integer, unless there are too many. -/
theorem readNumber_toDigits {n : Nat} (short : (Nat.toDigits 10 n).length ≤ Text.maxDigits)
    {rest : List Char} (ends : Ends rest) :
    readNumber (Nat.toDigits 10 n ++ rest) = .ok (.int n, rest) ∧
      readNumber ('-' :: (Nat.toDigits 10 n ++ rest)) = .ok (.int (-n), rest) := by
  have whole := wholePart?_toDigits n ends
  have value := digitsValue_toDigits n
  have numeral := (renders_decimal n).numeral
  obtain ⟨e, tail, rfl, isEnd⟩ := ends
  have noFraction : fraction (e :: tail) = ([], e :: tail) := by
    rcases isEnd with rfl | rfl <;> rfl
  have noExponent : exponent? (e :: tail) = none := by
    rcases isEnd with rfl | rfl <;> rfl
  refine ⟨?_, by simp [readNumber, whole, noFraction, noExponent, short, value]⟩
  generalize Nat.toDigits 10 n = digits at whole value numeral short ⊢
  obtain ⟨c, others, rfl⟩ := List.exists_cons_of_ne_nil numeral.nonempty
  have unsigned : c ≠ '-' := by
    rintro rfl
    exact absurd (numeral.all '-' List.mem_cons_self) (by decide)
  rw [List.cons_append] at whole ⊢
  rw [List.length_cons] at short
  simp [readNumber, unsigned, whole, noFraction, noExponent, value]
  omega

/-- What starts with a digit is no word. -/
theorem readAtom_digit {c : Char} (member : c ∈ Base.dec.alphabet) (cs : List Char) :
    readAtom (c :: cs) = readNumber (c :: cs) ∧
      readAtom ('-' :: c :: cs) = readNumber ('-' :: c :: cs) := by
  have table : (Base.dec.alphabet.all fun c =>
      'n' ≠ c ∧ 't' ≠ c ∧ 'f' ≠ c ∧ 'N' ≠ c ∧ 'I' ≠ c ∧ '-' ≠ c) = true := by decide
  have other := of_decide_eq_true (List.all_eq_true.mp table c member)
  simp [readAtom, after?, other]

/-- An integer that can be written is read back. -/
theorem readAtom_decimal {n : Int} (short : Text.isWritable n = true) {rest : List Char}
    (ends : Ends rest) : readAtom ((Text.decimal n).toList ++ rest) = .ok (.int n, rest) := by
  have short := Text.isWritable_iff_length.mp short
  obtain ⟨plain, signed⟩ := readNumber_toDigits short ends
  have numeral := (renders_decimal n.natAbs).numeral
  obtain ⟨c, others, same⟩ := List.exists_cons_of_ne_nil numeral.nonempty
  have atom := readAtom_digit (numeral.all c (same ▸ List.mem_cons_self)) (others ++ rest)
  rw [← List.cons_append, ← same] at atom
  cases n with
  | ofNat n =>
    have text : (Text.decimal (.ofNat n)).toList = Nat.toDigits 10 n := String.toList_ofList
    rw [text]
    exact atom.1.trans plain
  | negSucc n =>
    rw [Text.toList_decimal_negSucc]
    exact atom.2.trans signed

/-! ## White space -/

theorem skipSpace_newline (depth : Nat) (cs : List Char) :
    skipSpace ((newline depth).toList ++ cs) = skipSpace cs := by
  have spaces : ∀ c ∈ (newline depth).toList, isSpace c = true := by
    simp [newline, Text.fill, isSpace]
  exact List.dropWhile_append_of_pos spaces

theorem skipSpace_cons {c : Char} (solid : isSpace c = false) (cs : List Char) :
    skipSpace (c :: cs) = c :: cs :=
  List.dropWhile_cons_of_neg (by simp [solid])

theorem ends_newline (depth : Nat) (rest : List Char) : Ends ((newline depth).toList ++ rest) :=
  ⟨'\n', _, by simp [newline]; rfl, .inr rfl⟩

/-! ## Values -/

/-- A value that its text determines. -/
inductive Storable : Json → Prop
  | null : Storable .null
  | bool (value : Bool) : Storable (.bool value)
  | int {n : Int} (short : Text.isWritable n = true) : Storable (.int n)
  | string {t : Text} (joined : t.Joined) : Storable (.string t)
  | array {items : List Json} (each : ∀ item ∈ items, Storable item) : Storable (.array items)
  | object {fields : List (Text × Json)} (distinct : (fields.map Prod.fst).Nodup)
      (joined : ∀ field ∈ fields, field.1.Joined) (each : ∀ field ∈ fields, Storable field.2) :
      Storable (.object fields)

/-- The text of a value at a depth. -/
def chars (depth : Nat) (value : Json) : List Char := (prettyAt depth value).toList

/-- The characters that texts of values start with. -/
def firsts : List Char := "ntf\"[\x7b-0123456789".toList

theorem of_mem_firsts {c : Char} (member : c ∈ firsts) :
    isSpace c = false ∧ c ≠ ']' ∧ c ≠ Char.ofNat 0xFEFF := by
  have table : (firsts.all fun c =>
      isSpace c = false ∧ c ≠ ']' ∧ c ≠ Char.ofNat 0xFEFF) = true := by decide
  exact of_decide_eq_true (List.all_eq_true.mp table c member)

/-- The text of a value is read back where the line ends after it. -/
structure Reads (depth : Nat) (value : Json) : Prop where
  starts : ∃ c cs, chars depth value = c :: cs ∧ c ∈ firsts
  reads : ∀ {fuel : Nat} {rest : List Char}, 2 * (chars depth value).length ≤ fuel → Ends rest →
    readValue fuel (chars depth value ++ rest) = .ok (value, rest)

theorem Reads.skipSpace {depth : Nat} {value : Json} (reads : Reads depth value)
    (rest : List Char) : skipSpace (chars depth value ++ rest) = chars depth value ++ rest := by
  obtain ⟨c, cs, same, first⟩ := reads.starts
  rw [same, List.cons_append, skipSpace_cons (of_mem_firsts first).1]

/-- What stands between two items. -/
def separator (depth : Nat) : List Char := ',' :: (newline depth).toList

/-- The lines of an array. -/
def itemChars (depth : Nat) (items : List Json) : List Char :=
  (separator depth).intercalate (items.map (chars depth))

/-- The lines of an object. -/
def fieldChars (depth : Nat) (fields : List (Text × Json)) : List Char :=
  (separator depth).intercalate
    (fields.map fun field => (quote field.1).toList ++ ": ".toList ++ chars depth field.2)

theorem prettyItems_eq_map (depth : Nat) (items : List Json) :
    prettyItems depth items = items.map (prettyAt depth) := by
  induction items with
  | nil => rfl
  | cons item rest ih => rw [prettyItems, ih, List.map_cons]

theorem prettyFields_eq_map (depth : Nat) (fields : List (Text × Json)) :
    prettyFields depth fields =
      fields.map fun field => quote field.1 ++ ": " ++ prettyAt depth field.2 := by
  induction fields with
  | nil => rfl
  | cons field rest ih => rw [prettyFields, ih, List.map_cons]

theorem chars_array {items : List Json} (some : items ≠ []) (depth : Nat) :
    chars depth (.array items) = '[' :: ((newline (depth + 1)).toList ++
      (itemChars (depth + 1) items ++ ((newline depth).toList ++ [']']))) := by
  obtain ⟨item, rest, rfl⟩ := List.exists_cons_of_ne_nil some
  simp only [chars, prettyAt, itemChars, separator, prettyItems_eq_map, String.toList_append,
    String.toList_intercalate, List.map_map, List.append_assoc]
  rfl

theorem chars_object {fields : List (Text × Json)} (some : fields ≠ []) (depth : Nat) :
    chars depth (.object fields) = '\x7b' :: ((newline (depth + 1)).toList ++
      (fieldChars (depth + 1) fields ++ ((newline depth).toList ++ ['\x7d']))) := by
  obtain ⟨field, rest, rfl⟩ := List.exists_cons_of_ne_nil some
  simp only [chars, prettyAt, fieldChars, separator, prettyFields_eq_map, String.toList_append,
    String.toList_intercalate, List.map_map, Function.comp_def, List.append_assoc]
  rfl

theorem itemChars_cons_cons (depth : Nat) (item next : Json) (items : List Json) :
    itemChars depth (item :: next :: items) =
      chars depth item ++ (separator depth ++ itemChars depth (next :: items)) := by
  simp only [itemChars, List.map_cons, List.intercalate_cons_cons, List.append_assoc]

theorem fieldChars_cons_cons (depth : Nat) (field next : Text × Json)
    (fields : List (Text × Json)) :
    fieldChars depth (field :: next :: fields) = fieldChars depth [field] ++
      (separator depth ++ fieldChars depth (next :: fields)) := by
  simp only [fieldChars, List.map_cons, List.map_nil, List.intercalate_cons_cons,
    List.intercalate_singleton, List.append_assoc]

theorem itemChars_starts {depth : Nat} {item : Json} (reads : Reads depth item)
    (items : List Json) (tail : List Char) :
    ∃ c cs, itemChars depth (item :: items) ++ tail = c :: cs ∧ c ∈ firsts := by
  obtain ⟨c, cs, same, first⟩ := reads.starts
  cases items with
  | nil =>
    rw [itemChars, List.map_singleton, List.intercalate_singleton, same]
    exact ⟨c, _, rfl, first⟩
  | cons next items =>
    rw [itemChars_cons_cons, same]
    exact ⟨c, _, rfl, first⟩

/-- A line break before an item is skipped. -/
theorem skipSpace_itemChars {depth : Nat} {item : Json} (reads : Reads depth item)
    (items : List Json) (tail : List Char) :
    skipSpace (itemChars depth (item :: items) ++ tail) =
      itemChars depth (item :: items) ++ tail := by
  obtain ⟨c, cs, same, first⟩ := itemChars_starts reads items tail
  rw [same, skipSpace_cons (of_mem_firsts first).1]

/-- The items of an array are read back up to the closing bracket. -/
theorem readItems_itemChars {depth : Nat} {items : List Json} (some : items ≠ [])
    (each : ∀ item ∈ items, Reads (depth + 1) item) {fuel : Nat}
    (enough : 2 * (itemChars (depth + 1) items).length < fuel) (done : List Json)
    (rest : List Char) :
    readItems fuel done
        (itemChars (depth + 1) items ++ ((newline depth).toList ++ ']' :: rest)) =
      .ok (.array (done.reverse ++ items), rest) := by
  induction items generalizing fuel done with
  | nil => exact absurd rfl some
  | cons item items ih =>
    obtain ⟨first, others⟩ := List.forall_mem_cons.mp each
    obtain ⟨fuel, rfl⟩ := Nat.exists_eq_add_one_of_ne_zero (by omega : fuel ≠ 0)
    cases items with
    | nil =>
      have single : itemChars (depth + 1) [item] = chars (depth + 1) item := by
        rw [itemChars, List.map_singleton, List.intercalate_singleton]
      rw [single] at enough ⊢
      rw [readItems, first.reads (by omega) (ends_newline depth _)]
      simp only [skipSpace_newline, skipSpace_cons (c := ']') rfl, List.reverse_cons]
    | cons next items =>
      rw [itemChars_cons_cons, separator] at enough ⊢
      simp only [List.length_append, List.length_cons] at enough
      have later := ih (by simp) others (by omega : _ < fuel) (item :: done)
      simp only [List.cons_append, List.append_assoc]
      rw [readItems, first.reads (by omega) ⟨',', _, rfl, .inl rfl⟩]
      simp only [skipSpace_cons (c := ',') rfl, skipSpace_newline,
        skipSpace_itemChars (others next List.mem_cons_self), later, List.reverse_cons,
        List.append_assoc]
      rfl

theorem setField_of_not_mem {name : Text} {fields : List (Text × Json)}
    (absent : name ∉ fields.map Prod.fst) (value : Json) :
    setField name value fields = fields ++ [(name, value)] := by
  induction fields with
  | nil => rfl
  | cons field rest ih =>
    obtain ⟨key, old⟩ := field
    rw [List.map_cons, List.mem_cons, not_or] at absent
    rw [setField, if_neg (Ne.symm absent.1), ih absent.2]
    rfl

theorem fieldChars_singleton (depth : Nat) (field : Text × Json) :
    fieldChars depth [field] =
      '"' :: (escapedChars field.1 ++ '"' :: ':' :: ' ' :: chars depth field.2) := by
  simp [fieldChars, toList_quote]

/-- A field with a new name is read back. A brace after it ends the object, and a comma leads to the
next field. -/
theorem readFields_fieldChars_singleton {depth fuel : Nat} {field : Text × Json}
    (joined : field.1.Joined) (reads : Reads depth field.2)
    (enough : 2 * (chars depth field.2).length ≤ fuel) {done : List (Text × Json)}
    (absent : field.1 ∉ done.map Prod.fst) {tail : List Char} (ends : Ends tail)
    {rest : List Char} :
    (skipSpace tail = '\x7d' :: rest →
        readFields (fuel + 1) done (fieldChars depth [field] ++ tail) =
          .ok (.object (done ++ [field]), rest)) ∧
      (skipSpace tail = ',' :: rest →
        readFields (fuel + 1) done (fieldChars depth [field] ++ tail) =
          readFields fuel (done ++ [field]) (skipSpace rest)) := by
  have value := reads.reads enough ends
  have space : skipSpace (' ' :: (chars depth field.2 ++ tail)) = chars depth field.2 ++ tail :=
    reads.skipSpace tail
  simp only [fieldChars_singleton, List.cons_append, List.append_assoc, readFields,
    readString_escapedChars joined, skipSpace_cons (c := ':') rfl, space, value,
    setField_of_not_mem absent]
  constructor
  · intro next
    simp only [next]
  · intro next
    simp only [next]

theorem fieldChars_starts (depth : Nat) (field : Text × Json) (fields : List (Text × Json)) :
    ∃ cs, fieldChars depth (field :: fields) = '"' :: cs := by
  cases fields with
  | nil => exact ⟨_, fieldChars_singleton depth field⟩
  | cons next fields =>
    rw [fieldChars_cons_cons, fieldChars_singleton]
    exact ⟨_, rfl⟩

theorem skipSpace_fieldChars (depth : Nat) (field : Text × Json) (fields : List (Text × Json))
    (tail : List Char) :
    skipSpace (fieldChars depth (field :: fields) ++ tail) =
      fieldChars depth (field :: fields) ++ tail := by
  obtain ⟨cs, same⟩ := fieldChars_starts depth field fields
  rw [same]
  rfl

/-- The fields of an object are read back up to the closing brace. -/
theorem readFields_fieldChars {depth : Nat} {fields : List (Text × Json)} (some : fields ≠ [])
    (joined : ∀ field ∈ fields, field.1.Joined)
    (each : ∀ field ∈ fields, Reads (depth + 1) field.2) {fuel : Nat}
    (enough : 2 * (fieldChars (depth + 1) fields).length < fuel) (done : List (Text × Json))
    (distinct : ((done ++ fields).map Prod.fst).Nodup) (rest : List Char) :
    readFields fuel done
        (fieldChars (depth + 1) fields ++ ((newline depth).toList ++ '\x7d' :: rest)) =
      .ok (.object (done ++ fields), rest) := by
  induction fields generalizing fuel done with
  | nil => exact absurd rfl some
  | cons field fields ih =>
    obtain ⟨first, others⟩ := List.forall_mem_cons.mp each
    obtain ⟨named, otherNames⟩ := List.forall_mem_cons.mp joined
    obtain ⟨fuel, rfl⟩ := Nat.exists_eq_add_one_of_ne_zero (by omega : fuel ≠ 0)
    have absent : field.1 ∉ done.map Prod.fst := by
      rw [List.map_append, List.nodup_append] at distinct
      exact fun inside => distinct.2.2 _ inside _ List.mem_cons_self rfl
    have length : (chars (depth + 1) field.2).length ≤
        (fieldChars (depth + 1) [field]).length := by
      rw [fieldChars_singleton]
      simp
      omega
    cases fields with
    | nil =>
      refine (readFields_fieldChars_singleton named first (by omega) absent
        (ends_newline depth _)).1 ?_
      rw [skipSpace_newline, skipSpace_cons (c := '\x7d') rfl]
    | cons next fields =>
      rw [fieldChars_cons_cons, separator] at enough ⊢
      simp only [List.length_append, List.length_cons] at enough
      rw [List.append_cons] at distinct
      have later := ih (by simp) otherNames others (by omega : _ < fuel) (done ++ [field]) distinct
      simp only [List.cons_append, List.append_assoc]
      rw [(readFields_fieldChars_singleton named first (by omega) absent
        ⟨',', _, rfl, .inl rfl⟩).2 (skipSpace_cons (c := ',') rfl _)]
      rw [skipSpace_newline, skipSpace_fieldChars, later, List.append_assoc]
      rfl

theorem decimal_starts (n : Int) :
    ∃ c cs, (Text.decimal n).toList = c :: cs ∧ c ∈ '-' :: Base.dec.alphabet := by
  have some : (Text.decimal n).toList ≠ [] := by
    cases n with
    | ofNat n =>
      rw [show (Text.decimal (.ofNat n)).toList = Nat.toDigits 10 n from String.toList_ofList]
      exact (renders_decimal n).numeral.nonempty
    | negSucc n => simp [Text.toList_decimal_negSucc]
  obtain ⟨c, cs, same⟩ := List.exists_cons_of_ne_nil some
  exact ⟨c, cs, same, Text.mem_decimal (same ▸ List.mem_cons_self)⟩

theorem Reads.of_chars {depth : Nat} {value : Json} {c : Char} {cs : List Char}
    (text : chars depth value = c :: cs) (first : c ∈ firsts)
    (reads : ∀ fuel rest, 2 * cs.length < fuel → Ends rest →
      readValue (fuel + 1) (c :: (cs ++ rest)) = .ok (value, rest)) : Reads depth value := by
  refine ⟨⟨c, cs, text, first⟩, ?_⟩
  intro fuel rest enough ends
  rw [text, List.length_cons] at enough
  obtain ⟨fuel, rfl⟩ := Nat.exists_eq_add_one_of_ne_zero (by omega : fuel ≠ 0)
  rw [text]
  exact reads fuel rest (by omega) ends

/-- The text of a value that can be stored is read back. -/
theorem Storable.reads {value : Json} (storable : value.Storable) (depth : Nat) :
    Reads depth value := by
  induction storable generalizing depth with
  | null =>
    have text : chars depth .null = ['n', 'u', 'l', 'l'] := by simp [chars, prettyAt]
    exact .of_chars text (by decide) fun fuel rest _ _ => rfl
  | bool value =>
    cases value with
    | true =>
      have text : chars depth (.bool true) = ['t', 'r', 'u', 'e'] := by simp [chars, prettyAt]
      exact .of_chars text (by decide) fun fuel rest _ _ => rfl
    | false =>
      have text : chars depth (.bool false) = ['f', 'a', 'l', 's', 'e'] := by
        simp [chars, prettyAt]
      exact .of_chars text (by decide) fun fuel rest _ _ => rfl
  | @int n short =>
    obtain ⟨c, cs, same, member⟩ := decimal_starts n
    have table : (('-' :: Base.dec.alphabet).all fun c =>
        c ∈ firsts ∧ c ≠ '"' ∧ c ≠ '[' ∧ c ≠ '\x7b') = true := by decide
    obtain ⟨first, quote, bracket, brace⟩ :=
      of_decide_eq_true (List.all_eq_true.mp table c member)
    refine .of_chars same first fun fuel rest _ ends => ?_
    have atom := readAtom_decimal short ends
    rw [same, List.cons_append] at atom
    simpa [readValue, quote, bracket, brace] using atom
  | @string t joined =>
    have text : chars depth (.string t) = '"' :: (escapedChars t ++ ['"']) := toList_quote t
    refine .of_chars text (by decide) fun fuel rest _ _ => ?_
    simp only [List.append_assoc, List.cons_append, List.nil_append, readValue,
      readString_escapedChars joined]
  | @array items each ih =>
    by_cases some : items = []
    · subst some
      have text : chars depth (.array []) = ['[', ']'] := by simp [chars, prettyAt]
      exact .of_chars text (by decide) fun fuel rest _ _ => rfl
    · refine .of_chars (chars_array some depth) (by decide) fun fuel rest enough _ => ?_
      simp only [List.length_append] at enough
      have read := readItems_itemChars some (fun item member => ih item member (depth + 1))
        (by omega : _ < fuel) [] rest
      obtain ⟨item, items, rfl⟩ := List.exists_cons_of_ne_nil some
      have first := ih item List.mem_cons_self (depth + 1)
      simp only [readValue, List.append_assoc, List.cons_append, List.nil_append,
        skipSpace_newline, skipSpace_itemChars first]
      obtain ⟨c, cs, same, isFirst⟩ := itemChars_starts first items
        ((newline depth).toList ++ ']' :: rest)
      rw [same] at read ⊢
      simpa [of_mem_firsts isFirst] using read
  | @object fields distinct joined each ih =>
    by_cases some : fields = []
    · subst some
      have text : chars depth (.object []) = ['\x7b', '\x7d'] := by simp [chars, prettyAt]
      exact .of_chars text (by decide) fun fuel rest _ _ => rfl
    · refine .of_chars (chars_object some depth) (by decide) fun fuel rest enough _ => ?_
      simp only [List.length_append] at enough
      have read := readFields_fieldChars some joined
        (fun field member => ih field member (depth + 1)) (by omega : _ < fuel) [] distinct rest
      obtain ⟨field, fields, rfl⟩ := List.exists_cons_of_ne_nil some
      simp only [readValue, List.append_assoc, List.cons_append, List.nil_append,
        skipSpace_newline, skipSpace_fieldChars]
      obtain ⟨cs, same⟩ := fieldChars_starts (depth + 1) field fields
      rw [same] at read ⊢
      exact read

/-- The text of a value that can be stored, on a line of its own, is read back to the value. -/
theorem Storable.ofChars_pretty {value : Json} (storable : value.Storable) :
    ofChars (value.pretty ++ "\n").toList = .ok value := by
  have reads := storable.reads 0
  have ends : Ends ['\n'] := ⟨'\n', [], rfl, .inr rfl⟩
  have text : (value.pretty ++ "\n").toList = chars 0 value ++ ['\n'] := String.toList_append
  have read : readValue (2 * (chars 0 value ++ ['\n']).length + 2) (chars 0 value ++ ['\n']) =
      .ok (value, ['\n']) := by
    apply reads.reads _ ends
    rw [List.length_append]
    omega
  have mark : (chars 0 value ++ ['\n']).head? ≠ some (Char.ofNat 0xFEFF) := by
    obtain ⟨c, cs, same, first⟩ := reads.starts
    rw [same]
    simpa using (of_mem_firsts first).2.2
  rw [text, ofChars, if_neg mark, reads.skipSpace, read]
  rfl

/-! ## Strings that were read -/

/-- All strings in a value are joined. -/
inductive Joined : Json → Prop
  | null : Joined .null
  | bool (value : Bool) : Joined (.bool value)
  | int (value : Int) : Joined (.int value)
  | float (value : Binary64) : Joined (.float value)
  | string {t : Text} (joined : t.Joined) : Joined (.string t)
  | array {items : List Json} (each : ∀ item ∈ items, Joined item) : Joined (.array items)
  | object {fields : List (Text × Json)} (names : ∀ field ∈ fields, field.1.Joined)
      (each : ∀ field ∈ fields, Joined field.2) : Joined (.object fields)

/-- What holds while a string is read: the text so far is joined, and no second half of a pair comes
after a first. -/
structure Pending (done : Text) (cs : List Char) : Prop where
  joined : Text.Joined done.reverse
  single : ∀ last ∈ done.head?, last.IsFirst → second cs = .none

namespace Pending

variable {done : Text} {cs : List Char}

theorem push (pending : Pending done cs) {point : CodePoint} {rest : List Char}
    (apart : second cs = .none → ¬ point.IsSecond)
    (single : point.IsFirst → second rest = .none) : Pending (point :: done) rest := by
  constructor
  · rw [List.reverse_cons]
    refine List.isChain_append.mpr ⟨pending.joined, .singleton point, ?_⟩
    rintro last atEnd next isNext ⟨isFirst, isSecond⟩
    rw [List.getLast?_reverse] at atEnd
    cases isNext
    exact apart (pending.single last atEnd isFirst) isSecond
  · intro last isLast isFirst
    cases isLast
    exact single isFirst

theorem char (pending : Pending done cs) (c : Char) (rest : List Char) :
    Pending (.char c :: done) rest :=
  pending.push (fun _ => id) False.elim

theorem unit {a b c d e : Char} {rest : List Char}
    (pending : Pending done ('\\' :: 'u' :: a :: b :: c :: d :: e :: rest)) {n : Nat}
    (value : unit? a b c d = some n)
    (single : 0xD800 ≤ n ∧ n < 0xDC00 → second (e :: rest) = .none) :
    Pending (.ofUnit n :: done) (e :: rest) := by
  refine pending.push ?_ (single ∘ isFirst_ofUnit.mp)
  intro alone isSecond
  simp [second, value, isSecond_ofUnit.mp isSecond] at alone

end Pending

/-- A string that was read is joined. -/
theorem joined_of_stringBody {start fuel : Nat} {done t : Text} {cs rest : List Char}
    (read : stringBody start fuel done cs = .ok (t, rest)) (pending : Pending done cs) :
    t.Joined := by
  fun_induction stringBody start fuel done cs with
  | case3 =>
    cases read
    exact pending.joined
  | case6 done fuel a b c d e tail n value isFirst alone ih =>
    exact ih read (pending.unit value fun _ => alone)
  | case8 done fuel a b c d e tail n value isFirst low after half joined ih =>
    exact ih read (pending.char _ after)
  | case9 done fuel a b c d e tail n value other ih =>
    exact ih read (pending.unit value fun isFirst => absurd isFirst other)
  | case11 done fuel letter tail other c known ih => exact ih read (pending.char c tail)
  | case14 done fuel c tail _ _ _ _ visible ih => exact ih read (pending.char c tail)
  | _ => cases read

theorem joined_of_readString {cs rest : List Char} {t : Text}
    (read : readString cs = .ok (t, rest)) : t.Joined :=
  joined_of_stringBody read ⟨.nil, nofun⟩

/-- A field that is set keeps the strings of an object joined. -/
theorem Joined.setField {name : Text} {value : Json} {fields : List (Text × Json)}
    (joined : Joined (.object fields)) (named : name.Joined) (valued : value.Joined) :
    Joined (.object (setField name value fields)) := by
  cases joined with
  | object names values =>
    have each : ∀ field ∈ Json.setField name value fields,
        field.1.Joined ∧ Json.Joined field.2 := by
      induction fields with
      | nil => simpa [Json.setField] using ⟨named, valued⟩
      | cons field rest ih =>
        obtain ⟨key, old⟩ := field
        rw [List.forall_mem_cons] at names values
        have others := fun field member => And.intro (names.2 field member) (values.2 field member)
        rw [Json.setField]
        split
        · exact List.forall_mem_cons.mpr ⟨⟨names.1, valued⟩, others⟩
        · exact List.forall_mem_cons.mpr ⟨⟨names.1, values.1⟩, ih names.2 values.2⟩
    exact .object (fun field member => (each field member).1)
      fun field member => (each field member).2

theorem joined_of_readNumber {cs rest : List Char} {value : Json}
    (read : readNumber cs = .ok (value, rest)) : value.Joined := by
  unfold readNumber at read
  dsimp only at read
  split at read
  · cases read
  · split at read
    · cases read
      exact .float _
    · split at read
      · split at read
        · cases read
        · cases read
          exact .int _
      · cases read
        exact .float _

theorem joined_of_readAtom {cs rest : List Char} {value : Json}
    (read : readAtom cs = .ok (value, rest)) : value.Joined := by
  unfold readAtom at read
  dsimp only at read
  split at read
  · rename_i found isFound
    cases read
    obtain ⟨⟨word, other⟩, member, matched⟩ := List.exists_of_findSome?_eq_some isFound
    obtain ⟨_, _, same⟩ := Option.map_eq_some_iff.mp matched
    cases same
    simp only [List.mem_cons, Prod.mk.injEq, List.not_mem_nil, or_false] at member
    rcases member with ⟨-, rfl⟩ | ⟨-, rfl⟩ | ⟨-, rfl⟩ | ⟨-, rfl⟩ | ⟨-, rfl⟩ | ⟨-, rfl⟩ <;>
      constructor
  · exact joined_of_readNumber read

/-- What is read with some fuel has joined strings, given that what was read before it has. -/
structure ReadsJoined (fuel : Nat) : Prop where
  value : ∀ {cs value rest}, readValue fuel cs = .ok (value, rest) → value.Joined
  items : ∀ {done cs value rest}, readItems fuel done cs = .ok (value, rest) →
    (∀ item ∈ done, item.Joined) → value.Joined
  fields : ∀ {done cs value rest}, readFields fuel done cs = .ok (value, rest) →
    Joined (.object done) → value.Joined

namespace ReadsJoined

variable {fuel : Nat} {cs rest : List Char} {result : Json}

theorem readValue (joined : ReadsJoined fuel)
    (read : readValue (fuel + 1) cs = .ok (result, rest)) : result.Joined := by
  unfold Json.readValue at read
  split at read
  · split at read
    · rename_i string
      cases read
      exact .string (joined_of_readString string)
    · cases read
  · split at read
    · cases read
      exact .object nofun nofun
    · exact joined.fields read (.object nofun nofun)
  · split at read
    · cases read
      exact .array nofun
    · exact joined.items read nofun
  · exact joined_of_readAtom read

theorem readItems (joined : ReadsJoined fuel) {done : List Json}
    (read : readItems (fuel + 1) done cs = .ok (result, rest))
    (each : ∀ item ∈ done, item.Joined) : result.Joined := by
  unfold Json.readItems at read
  split at read
  · cases read
  · rename_i item _ isItem
    have more := List.forall_mem_cons.mpr ⟨joined.value isItem, each⟩
    split at read
    · cases read
      exact .array fun item member => more item (List.mem_reverse.mp member)
    · exact joined.items read more
    · cases read

theorem readFields (joined : ReadsJoined fuel) {done : List (Text × Json)}
    (read : readFields (fuel + 1) done cs = .ok (result, rest))
    (before : Joined (.object done)) : result.Joined := by
  unfold Json.readFields at read
  split at read
  · split at read
    · cases read
    · rename_i name _ isName
      split at read
      · split at read
        · cases read
        · rename_i found _ isValue
          have more := before.setField (joined_of_readString isName) (joined.value isValue)
          dsimp only at read
          split at read
          · cases read
            exact more
          · exact joined.fields read more
          · cases read
      · cases read
  · cases read

end ReadsJoined

/-- All strings of a value that was read are joined. -/
theorem readsJoined (fuel : Nat) : ReadsJoined fuel := by
  induction fuel with
  | zero => exact ⟨nofun, nofun, nofun⟩
  | succ fuel ih => exact ⟨ih.readValue, ih.readItems, ih.readFields⟩

theorem joined_of_ofChars {cs : List Char} {value : Json} (read : ofChars cs = .ok value) :
    value.Joined := by
  unfold ofChars at read
  split at read
  · cases read
  · split at read
    · cases read
    · rename_i isValue
      have joined := (readsJoined _).value isValue
      split at read
      · cases read
        exact joined
      · cases read

end Assembler.Json
