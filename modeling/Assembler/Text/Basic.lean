/-!
# Texts

A text is a sequence of code points. Beside the characters these include the halves of UTF-16 pairs:
an escape in a JSON string may name a half that has no partner, and names, messages and listings
then carry it along. A `String` is the text of its characters.
-/

namespace Assembler

/-- A code point: a character, or half of a UTF-16 pair. -/
inductive CodePoint where
  | char (c : Char)
  | surrogate (index : Fin 0x800)
  deriving DecidableEq, Repr

namespace CodePoint

/-- The number of a code point. -/
def toNat : CodePoint → Nat
  | .char c => c.toNat
  | .surrogate index => 0xD800 + index

/-- The code point of a UTF-16 unit that stands by itself. -/
def ofUnit (n : Nat) : CodePoint :=
  if h : 0xD800 ≤ n ∧ n < 0xE000 then .surrogate ⟨n - 0xD800, by omega⟩ else .char (Char.ofNat n)

end CodePoint

/-- A sequence of code points. -/
abbrev Text := List CodePoint

namespace Text

/-- The text of some characters. -/
def ofChars (cs : List Char) : Text := cs.map .char

/-- The text of a string. -/
def ofString (s : String) : Text := ofChars s.toList

instance : Coe String Text := ⟨ofString⟩

@[simp] theorem ofChars_nil : ofChars [] = [] := rfl

@[simp] theorem ofChars_cons (c : Char) (cs : List Char) :
    ofChars (c :: cs) = .char c :: ofChars cs := rfl

@[simp] theorem ofChars_append (cs ds : List Char) :
    ofChars (cs ++ ds) = ofChars cs ++ ofChars ds := List.map_append

@[simp] theorem length_ofChars (cs : List Char) : (ofChars cs).length = cs.length :=
  List.length_map ..

@[simp] theorem ofChars_inj {cs ds : List Char} : ofChars cs = ofChars ds ↔ cs = ds :=
  List.map_inj_right fun _ _ => CodePoint.char.inj

@[simp] theorem char_mem_ofChars {c : Char} {cs : List Char} : .char c ∈ ofChars cs ↔ c ∈ cs := by
  simp [ofChars]

theorem forall_mem_ofChars {cs : List Char} {p : CodePoint → Prop} :
    (∀ point ∈ ofChars cs, p point) ↔ ∀ c ∈ cs, p (.char c) := by
  simp [ofChars]

theorem cons_eq_ofChars_iff {point : CodePoint} {rest : Text} {cs : List Char} :
    point :: rest = ofChars cs ↔ ∃ c ds, cs = c :: ds ∧ point = .char c ∧ rest = ofChars ds := by
  rw [eq_comm, ofChars, List.map_eq_cons_iff]
  simp only [ofChars, eq_comm]

@[simp] theorem ofString_append (s t : String) : ofString (s ++ t) = ofString s ++ ofString t := by
  simp [ofString]

@[simp] theorem ofString_inj {s t : String} : ofString s = ofString t ↔ s = t := by
  simp [ofString, String.toList_inj]

@[grind inj] theorem ofString_injective : Function.Injective ofString := by
  intro s t same
  exact ofString_inj.mp same

@[simp] theorem ofString_ofList (cs : List Char) : ofString (String.ofList cs) = ofChars cs := by
  rw [ofString, String.toList_ofList]

@[simp] theorem ofString_empty : ofString "" = [] := rfl

@[simp] theorem char_mem_ofString {c : Char} {s : String} : .char c ∈ ofString s ↔ c ∈ s.toList :=
  char_mem_ofChars

@[simp] theorem length_ofString (s : String) : (ofString s).length = s.length := by
  simp [ofString, String.length_toList]

end Text

end Assembler
