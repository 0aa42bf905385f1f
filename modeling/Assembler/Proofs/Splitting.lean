import Assembler.Proofs.Numeral

/-!
# Splitting texts

Two ways to take a printed text apart. A line can be split at the last place of a code point. An
instruction is split into words, which are the pieces between spaces, commas and brackets. A text
that is put together from words and marks has the words that it was made of.
-/

namespace Assembler.Text

variable {c : CodePoint} {text : Text}

/-! ## The last place of a code point -/

/-- A text before and after the last place where a code point stands. -/
def splitLast? (c : CodePoint) : Text → Option (Text × Text)
  | [] => none
  | d :: rest =>
    match splitLast? c rest with
    | some (front, back) => some (d :: front, back)
    | none => if d = c then some ([], rest) else none

theorem splitLast?_of_not_mem (absent : c ∉ text) : splitLast? c text = none := by
  induction text with
  | nil => rfl
  | cons d rest ih =>
    obtain ⟨other, later⟩ := not_or.mp (mt List.mem_cons.mpr absent)
    rw [splitLast?, ih later]
    exact if_neg (Ne.symm other)

theorem splitLast?_append (front : Text) {back : Text} (absent : c ∉ back) :
    splitLast? c (front ++ c :: back) = some (front, back) := by
  induction front with
  | nil =>
    rw [List.nil_append, splitLast?, splitLast?_of_not_mem absent]
    exact if_pos rfl
  | cons d rest ih => rw [List.cons_append, splitLast?, ih]

/-! ## Words -/

/-- What stands between words. -/
def marks : Text := " ,()"

/-- Whether a code point stands between words. -/
def isMark (c : CodePoint) : Bool := marks.contains c

/-- Code points that words are made of: those of opcodes, registers and numbers. -/
def isLetter : CodePoint → Bool
  | .char c => c.isAlphanum || ['$', '-'].contains c
  | .surrogate _ => false

/-- The words of a text. -/
def words (text : Text) : List Text :=
  (text.splitOnP isMark).filter fun piece => !piece.isEmpty

/-- A piece of text that is a word. -/
structure IsWord (piece : Text) : Prop where
  nonempty : piece ≠ []
  letters : piece.all isLetter = true

theorem isMark_of_isLetter (letter : isLetter c = true) : isMark c = false := by
  have table : marks.all fun mark => !isLetter mark := by decide
  by_contra mark
  have apart := List.all_eq_true.mp table c (List.contains_iff_mem.mp (eq_true_of_ne_false mark))
  simp [letter] at apart

theorem IsWord.not_mem (isWord : IsWord text) (other : isLetter c = false) : c ∉ text := by
  intro inside
  have letter := List.all_eq_true.mp isWord.letters c inside
  rw [other] at letter
  cases letter

/-- A text of words and marks, and its words. -/
structure Consists (text : Text) (ws : List Text) : Prop where
  plain : ∀ c ∈ text, isLetter c = true ∨ isMark c = true
  words_eq : words text = ws

namespace Consists

variable {front back : Text} {ws vs : List Text}

theorem nil : Consists [] [] := ⟨by simp, by simp [words, List.splitOnP_nil]⟩

theorem word (isWord : IsWord text) : Consists text [text] := by
  have letters := List.all_eq_true.mp isWord.letters
  refine ⟨fun c inside => .inl (letters c inside), ?_⟩
  rw [words, List.splitOnP_eq_singleton fun c inside => isMark_of_isLetter (letters c inside)]
  simp [isWord.nonempty]

/-- A mark ends a word. -/
theorem append (before : Consists front ws) (mark : isMark c = true) (after : Consists back vs) :
    Consists (front ++ c :: back) (ws ++ vs) := by
  refine ⟨?_, ?_⟩
  · intro d inside
    rcases List.mem_append.mp inside with early | late
    · exact before.plain d early
    · rcases List.mem_cons.mp late with rfl | later
      · exact .inr mark
      · exact after.plain d later
  · rw [words, List.splitOnP_append_cons front back mark, List.filter_append]
    exact congrArg₂ (· ++ ·) before.words_eq after.words_eq

theorem cons (mark : isMark c = true) (after : Consists back vs) : Consists (c :: back) vs :=
  nil.append mark after

theorem spaces (count : Nat) (after : Consists back vs) :
    Consists (List.replicate count (.char ' ') ++ back) vs := by
  induction count with
  | zero => exact after
  | succ count ih => exact ih.cons (by decide)

theorem fill (before : Consists front ws) (count : Nat) :
    Consists (front ++ List.replicate count (.char ' ')) ws := by
  cases count with
  | zero => simpa using before
  | succ count =>
    have blank : Consists (List.replicate count (.char ' ')) [] := by simpa using nil.spaces count
    have filled := before.append (by decide : isMark (.char ' ') = true) blank
    rwa [List.append_nil] at filled

/-- Words with commas between them. -/
theorem joined (isWord : ∀ piece ∈ ws, IsWord piece) :
    Consists ((", " : Text).intercalate ws) ws := by
  induction ws with
  | nil => exact nil
  | cons first rest ih =>
    obtain ⟨firstWord, restWords⟩ := List.forall_mem_cons.mp isWord
    cases rest with
    | nil => simpa using word firstWord
    | cons second later =>
      rw [List.intercalate_cons_cons, List.append_assoc]
      exact (word firstWord).append (by decide) ((ih restWords).cons (by decide))

theorem not_mem (consists : Consists text ws) (letter : isLetter c = false)
    (mark : isMark c = false) : c ∉ text := by
  intro inside
  rcases consists.plain c inside with isLetter | isMark
  · rw [letter] at isLetter
    cases isLetter
  · rw [mark] at isMark
    cases isMark

end Consists

/-! ## Words for numbers -/

theorem IsWord.cons (letter : isLetter c = true) (rest : IsWord text) : IsWord (c :: text) :=
  ⟨List.cons_ne_nil c text, by rw [List.all_cons, letter, rest.letters, Bool.and_self]⟩

theorem isWord_of_numeral {base : Base} {digits : List Char} (numeral : base.Numeral digits) :
    IsWord (.ofChars digits) := by
  have table : base.alphabet.all (fun c => isLetter (.char c)) = true := by cases base <;> decide
  refine ⟨by simpa [ofChars] using numeral.nonempty, List.all_eq_true.mpr ?_⟩
  rw [forall_mem_ofChars]
  exact fun c inside => List.all_eq_true.mp table c (numeral.all c inside)

theorem isWord_decimal (n : Int) : IsWord (decimal n) := by
  have digits := fun m => isWord_of_numeral (Base.dec.renders_toDigits m).numeral
  cases n with
  | ofNat m =>
    rw [ofString, decimal, decimalNat, String.toList_ofList]
    exact digits m
  | negSucc m =>
    rw [ofString, toList_decimal_negSucc]
    exact (digits (m + 1)).cons (by decide)

theorem isWord_hexPadded (width : Nat) (n : Int) : IsWord (hexPadded width n) := by
  have digits := fun width m => isWord_of_numeral (renders_hexPadded width m).numeral
  cases n with
  | ofNat m => exact digits width m
  | negSucc m =>
    -- The sign takes one place of the column.
    have signed : (hexPadded width (.negSucc m)).toList =
        '-' :: (hexPadded (width - 1) ((m + 1 : Nat) : Int)).toList := by
      rw [toList_hexPadded]
      simp [hexPadded, Text.fill]
    rw [ofString, signed]
    exact (digits (width - 1) (m + 1)).cons (by decide)

theorem isWord_address (n : Int) : IsWord (address n) := by
  rw [ofString, toList_address]
  exact ((isWord_hexPadded 4 n).cons (by decide)).cons (by decide)

end Assembler.Text
