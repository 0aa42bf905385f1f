import Assembler.Text.Numeral
import Assembler.Text.Utf8
import Mathlib.Data.List.Chain

/-!
# Texts with and without halves of pairs

A text has bytes exactly if it is the text of a string, that is, if it has no half of a UTF-16 pair
in it. Texts that are put together from others are strings exactly if their parts are. A weaker
condition is enough for texts that are written as escapes: two halves that stand side by side must
not make up a pair, since they would be read as one character.
-/

namespace Assembler

/-! ## Texts of strings -/

namespace Text

variable {s t : Text}

/-- A text without halves of pairs. -/
def Whole (t : Text) : Prop := ∃ s : String, t = ofString s

theorem whole_iff : t.Whole ↔ ∀ point ∈ t, ∃ c, point = .char c := by
  constructor
  · rintro ⟨s, rfl⟩
    exact forall_mem_ofChars.mpr fun c _ => ⟨c, rfl⟩
  · intro chars
    induction t with
    | nil => exact ⟨"", rfl⟩
    | cons point rest ih =>
      obtain ⟨⟨c, rfl⟩, others⟩ := List.forall_mem_cons.mp chars
      obtain ⟨s, rfl⟩ := ih others
      exact ⟨String.ofList (c :: s.toList), by rw [ofString_ofList]; rfl⟩

@[simp] theorem whole_ofString (s : String) : (ofString s).Whole := ⟨s, rfl⟩

@[simp] theorem whole_nil : Whole [] := ⟨"", rfl⟩

@[simp] theorem whole_cons {c : Char} : Whole (.char c :: t) ↔ t.Whole := by
  simp only [whole_iff, List.forall_mem_cons, CodePoint.char.injEq, exists_eq', true_and]

@[simp] theorem whole_append : (s ++ t).Whole ↔ s.Whole ∧ t.Whole := by
  simp only [whole_iff, List.forall_mem_append]

@[simp] theorem whole_padRight {width : Nat} : (padRight width t).Whole ↔ t.Whole := by
  simp [padRight]

theorem ofString_join (parts : List String) :
    ofString (String.join parts) = parts.flatMap ofString := by
  induction parts with
  | nil => rfl
  | cons part rest ih => simp [ih]

theorem whole_intercalate {separator : Text} (whole : separator.Whole) {parts : List Text} :
    Whole (separator.intercalate parts) ↔ ∀ part ∈ parts, part.Whole := by
  induction parts with
  | nil => simp
  | cons part rest ih =>
    cases rest with
    | nil => simp
    | cons next rest =>
      rw [List.intercalate_cons_cons, whole_append, whole_append, ih]
      simp [whole]

/-- Strings are joined to a string. -/
theorem exists_joined? {separator : Text} (whole : separator.Whole) {parts : List (Option Text)}
    (each : ∀ part ∈ parts, ∃ s : String, part = some (ofString s)) :
    ∃ s : String, joined? separator parts = some (ofString s) := by
  have all : parts.all Option.isSome = true := by
    refine List.all_eq_true.mpr fun part member => ?_
    obtain ⟨s, rfl⟩ := each part member
    rfl
  have strings : ∀ part ∈ parts.filterMap id, part.Whole := by
    intro part member
    obtain ⟨found, inside, rfl⟩ := List.mem_filterMap.mp member
    obtain ⟨s, same⟩ := each _ inside
    exact ⟨s, Option.some.inj same⟩
  obtain ⟨s, same⟩ := (whole_intercalate whole).mpr strings
  exact ⟨s, by rw [joined?, if_pos all, same]⟩

/-! ## Bytes -/

namespace Utf8

theorem unwritableFrom?_ofChars (position : Nat) (cs : List Char) :
    unwritableFrom? position (ofChars cs) = none := by
  induction cs generalizing position with
  | nil => rfl
  | cons c rest ih => exact ih (position + 1)

theorem exists_unwritableFrom? (halves : ¬ t.Whole) (position : Nat) :
    ∃ fault, unwritableFrom? position t = some fault := by
  induction t generalizing position with
  | nil => exact absurd whole_nil halves
  | cons point rest ih =>
    cases point with
    | surrogate half => exact ⟨_, rfl⟩
    | char c => exact ih (mt whole_cons.mpr halves) (position + 1)

/-- The bytes of the text of a string are those of the string. -/
theorem encode_ofString (s : String) : encode (ofString s) = .ok s.toUTF8.data.toList := by
  have bytes : s.toUTF8.data.toList = s.toList.flatMap String.utf8EncodeChar := by
    rw [String.toUTF8, ← String.utf8Encode_toList, List.utf8Encode, List.toList_data_toByteArray]
  rw [encode, ofString, unwritableFrom?_ofChars, bytes, ofChars, List.flatMap_map]
  rfl

/-- A text with half of a pair has no bytes. -/
theorem exists_encode_eq_error (halves : ¬ t.Whole) : ∃ fault, encode t = .error fault := by
  obtain ⟨fault, found⟩ := exists_unwritableFrom? halves 0
  exact ⟨fault, by rw [encode, found]⟩

end Utf8

end Text

/-! ## Pairs -/

namespace CodePoint

/-- The first half of a pair. -/
def IsFirst : CodePoint → Prop
  | .char _ => False
  | .surrogate index => index.val < 0x400

/-- The second half of a pair. -/
def IsSecond : CodePoint → Prop
  | .char _ => False
  | .surrogate index => 0x400 ≤ index.val

end CodePoint

namespace Text

variable {s t : Text}

/-- The text has no two halves side by side that make up a pair. -/
def Joined (t : Text) : Prop := t.IsChain fun a b => ¬ (a.IsFirst ∧ b.IsSecond)

theorem Joined.append (first : s.Joined) (second : t.Joined) (whole : s.Whole ∨ t.Whole) :
    (s ++ t).Joined := by
  refine List.isChain_append.mpr ⟨first, second, ?_⟩
  rintro a last b head ⟨isFirst, isSecond⟩
  rcases whole with whole | whole
  · obtain ⟨c, rfl⟩ := whole_iff.mp whole a (List.mem_of_getLast? last)
    exact isFirst
  · obtain ⟨c, rfl⟩ := whole_iff.mp whole b (List.mem_of_head? head)
    exact isSecond

theorem Whole.joined (whole : t.Whole) : t.Joined := by
  rw [whole_iff] at whole
  refine List.isChain_iff_getElem.mpr ?_
  rintro k inside ⟨isFirst, -⟩
  obtain ⟨c, same⟩ := whole _ (List.getElem_mem (by omega : k < t.length))
  rw [same] at isFirst
  exact isFirst

theorem joined_ofString (s : String) : (ofString s).Joined := (whole_ofString s).joined

/-- A text that stands between strings. -/
theorem Joined.between (joined : t.Joined) (front back : String) :
    (ofString front ++ t ++ ofString back).Joined :=
  ((joined_ofString front).append joined (.inl (whole_ofString front))).append
    (joined_ofString back) (.inr (whole_ofString back))

end Text

end Assembler
