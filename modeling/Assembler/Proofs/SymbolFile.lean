import Assembler.Proofs.Labels
import Assembler.Proofs.Splitting
import Assembler.Proofs.Texts

/-!
# Reading symbol files

The name of a label may hold spaces, number signs or what looks like an address. A line of a symbol
file is still read back, from its end: neither the segment nor the address has a space in it, so the
last two spaces of the line stand around the address. That addresses fill their column is no work of
the printer. It follows from the layout, which places every label inside the address space.

Main statement: if the sizes of areas are absolute values, the lines of a symbol file between its
head and its end are those of the symbols in order, and the file determines the names, the addresses
and the segments. An area of negative size can push a label below address zero, and then the column
holds a sign.
-/

namespace Assembler

/-! ## Lines -/

theorem Segment.name_injective : Function.Injective Segment.name := by
  intro a b same
  cases a <;> cases b <;> first | rfl | exact absurd same (by decide)

/-- The names of segments are words. -/
theorem Segment.not_mem_name {c : Char} (apart : c ∉ "datinsructo".toList) (s : Segment) :
    .char c ∉ Text.ofString s.name := by
  rw [Text.char_mem_ofString]
  intro inside
  have letters : s.name.toList ⊆ "datinsructo".toList := by cases s <;> decide
  exact apart (letters inside)

namespace Image

/-- Lines without line feeds are the pieces of their text, and the last line feed leaves an empty
piece. -/
theorem splitOn_lines {ls : List Text} (some : ls ≠ []) (unbroken : ∀ l ∈ ls, .char '\n' ∉ l) :
    (lines ls).splitOn (.char '\n') = ls ++ [[]] := by
  have joined : lines ls = [.char '\n'].intercalate ls ++ [.char '\n'] := rfl
  rw [joined, List.splitOn_append_cons_self, List.splitOn_nil,
    List.splitOn_intercalate (.char '\n') unbroken some]

/-! ## Lines of symbols -/

/-- The parts of a line around its last two spaces. -/
def columns? (line : Text) : Option (Text × Text × Text) := do
  let (front, segment) ← Text.splitLast? (.char ' ') line
  let (name, address) ← Text.splitLast? (.char ' ') front
  return (name, address, segment)

/-- A line that gives a symbol: its name, its address in `width` capital digits, and its segment. -/
def Gives (width : Nat) (line : Text) (s : Symbol) : Prop :=
  ∃ digits : List Char,
    columns? line = some (s.name, "0x" ++ Text.ofChars digits, Text.ofString s.segment.name) ∧
      digits.length = width ∧ (∀ c ∈ digits, c ∈ Text.capitals) ∧
      Base.hex.positional digits = s.address

/-- A text that lists symbols: two lines of head, a line for each symbol, and an end. -/
def Lists (width : Nat) (text : Text) (symbols : List Symbol) : Prop :=
  ∃ lines : List Text,
    text.splitOn (.char '\n') =
        (["# Symbol table", "# Generated by vasm"] : List Text) ++ lines ++ [[]] ∧
      List.Forall₂ (Gives width) lines symbols

/-- A line gives one symbol only, up to the place of its definition. -/
theorem Gives.unique {line : Text} {width : Nat} {s other : Symbol}
    (gives : Gives width line s) {otherWidth : Nat} (again : Gives otherWidth line other) :
    (s.name, s.address, s.segment) = (other.name, other.address, other.segment) := by
  obtain ⟨digits, columns, -, -, value⟩ := gives
  obtain ⟨otherDigits, otherColumns, -, -, otherValue⟩ := again
  rw [columns, Option.some.injEq, Prod.mk.injEq, Prod.mk.injEq, List.append_cancel_left_eq,
    Text.ofChars_inj, Text.ofString_inj] at otherColumns
  obtain ⟨name, rfl, segment⟩ := otherColumns
  rw [name, ← value, otherValue, Segment.name_injective segment]

theorem Gives.map_eq {width otherWidth : Nat} {lines : List Text} {symbols others : List Symbol}
    (gives : List.Forall₂ (Gives width) lines symbols)
    (again : List.Forall₂ (Gives otherWidth) lines others) :
    symbols.map (fun s => (s.name, s.address, s.segment)) =
      others.map fun s => (s.name, s.address, s.segment) := by
  induction gives generalizing others with
  | nil =>
    cases again
    rfl
  | cons first _ ih =>
    cases again with
    | cons otherFirst otherRest =>
      rw [List.map_cons, List.map_cons, first.unique otherFirst, ih otherRest]

/-- A text lists one sequence of symbols only. -/
theorem Lists.map_eq {width otherWidth : Nat} {text : Text} {symbols others : List Symbol}
    (listed : Lists width text symbols) (again : Lists otherWidth text others) :
    symbols.map (fun s => (s.name, s.address, s.segment)) =
      others.map fun s => (s.name, s.address, s.segment) := by
  obtain ⟨lines, pieces, gives⟩ := listed
  obtain ⟨otherLines, otherPieces, otherGives⟩ := again
  rw [pieces, List.append_cancel_right_eq, List.append_cancel_left_eq] at otherPieces
  subst otherPieces
  exact Gives.map_eq gives otherGives

theorem symbolLine_eq (width : Nat) (s : Symbol) :
    symbolLine width s =
      (s.name ++
          .char ' ' :: (Text.ofString "0x" ++ Text.ofString (Text.hexPadded width s.address))) ++
        .char ' ' :: Text.ofString s.segment.name := by
  have first : Text.ofString " 0x" = .char ' ' :: Text.ofString "0x" := rfl
  have last : Text.ofString " " = [.char ' '] := rfl
  simp [symbolLine, first, last]

/-- A symbol whose address fits in its column is given by its line. -/
theorem gives_symbolLine {width : Nat} (pos : 0 < width) {s : Symbol} (nonneg : 0 ≤ s.address)
    (below : s.address < 16 ^ width) : Gives width (symbolLine width s) s := by
  obtain ⟨n, same⟩ := Int.eq_ofNat_of_zero_le nonneg
  have fits : n < 16 ^ width := by
    rw [same] at below
    exact_mod_cast below
  have address : .char ' ' ∉ "0x" ++ Text.ofString (Text.hexPadded width s.address) := by
    intro inside
    rcases List.mem_append.mp inside with mark | digit
    · exact absurd mark (by decide)
    · exact (Text.isWord_hexPadded width s.address).not_mem (by decide) digit
  have segment : .char ' ' ∉ Text.ofString s.segment.name :=
    Segment.not_mem_name (by decide) s.segment
  refine ⟨(Text.hexPadded width s.address).toList, ?_, ?_, ?_, ?_⟩
  · rw [symbolLine_eq, columns?, Text.splitLast?_append _ segment]
    exact congrArg (· >>= _) (Text.splitLast?_append _ address)
  · rw [same]
    exact Text.length_hexPadded pos fits
  · rw [same]
    exact fun c => Text.mem_capitals_of_mem_hexPadded
  · rw [same]
    exact congrArg Nat.cast (Text.renders_hexPadded width n).value

/-- A line has no line feed unless its name has one. -/
theorem symbolLine_unbroken {width : Nat} {s : Symbol} (unbroken : .char '\n' ∉ s.name) :
    .char '\n' ∉ symbolLine width s := by
  have segment : .char '\n' ∉ Text.ofString s.segment.name :=
    Segment.not_mem_name (by decide) s.segment
  have digits : .char '\n' ∉ Text.ofString (Text.hexPadded width s.address) :=
    (Text.isWord_hexPadded width s.address).not_mem (by decide)
  have mark : .char '\n' ∉ Text.ofString "0x" := by decide
  rw [symbolLine_eq]
  simp only [List.mem_append, List.mem_cons, not_or]
  exact ⟨⟨unbroken, by decide, mark, digits⟩, by decide, segment⟩

end Image

/-! ## Symbol files of images -/

variable {program : Program} {config : Config} {image : Image} {layout : Layout}
  {blocks : List (List PlacedInstruction)}

namespace Assembled

theorem addressDigits_eq (assembled : Assembled program config image layout blocks) :
    image.addressDigits = config.wordSize.bits / 4 := by
  rw [Image.addressDigits, assembled.wordBits_eq]
  cases config.wordSize <;> rfl

/-- Addresses fill the column of the symbol file. -/
theorem symbol_fits (assembled : Assembled program config image layout blocks)
    (absolute : program.AbsoluteSizes)
    {s : Symbol} (member : s ∈ image.symbols.symbols) :
    0 ≤ s.address ∧ s.address < 16 ^ (config.wordSize.bits / 4) := by
  rw [assembled.symbols_eq] at member
  have held := Layout.build_symbols_hold absolute assembled.built s member
  cases size : config.wordSize <;> rw [size] at held <;> exact WordSize.holds_iff.mp held

/-- The symbol file has a line for each symbol. -/
theorem symbolFile (assembled : Assembled program config image layout blocks)
    (absolute : program.AbsoluteSizes)
    (unbroken : ∀ name ∈ program.labels, .char '\n' ∉ name) :
    Image.Lists (config.wordSize.bits / 4) image.symbolListing image.symbols.symbols := by
  have pos : 0 < config.wordSize.bits / 4 := by cases config.wordSize <;> decide
  have fits := fun s => assembled.symbol_fits absolute (s := s)
  have whole : ∀ l ∈ (["# Symbol table", "# Generated by vasm"] : List Text) ++
      image.symbols.symbols.map (Image.symbolLine (config.wordSize.bits / 4)),
      .char '\n' ∉ l := by
    intro l member
    rcases List.mem_append.mp member with head | line
    · have heads : ∀ l ∈ (["# Symbol table", "# Generated by vasm"] : List Text),
          .char '\n' ∉ l := by
        decide
      exact heads l head
    · obtain ⟨s, inside, rfl⟩ := List.mem_map.mp line
      have label : s.name ∈ program.labels := assembled.names_eq ▸ List.mem_map_of_mem inside
      exact Image.symbolLine_unbroken (unbroken s.name label)
  refine ⟨image.symbols.symbols.map (Image.symbolLine (config.wordSize.bits / 4)), ?_, ?_⟩
  · rw [Image.symbolListing, assembled.addressDigits_eq, Image.splitOn_lines (by simp) whole]
  · rw [List.forall₂_map_left_iff, List.forall₂_same]
    exact fun s inside => Image.gives_symbolLine pos (fits s inside).1 (fits s inside).2

end Assembled

/-- The symbol file of an image has two lines of head and a line for each symbol, in the order of
the definitions, if the sizes of areas are absolute values and no label has a line feed in it. Each
line gives its symbol, so images with the same file have the same names, addresses and segments.
Their word sizes may even differ. -/
theorem assemble_symbolListing (assembled : assemble program config = .ok image)
    (absolute : program.AbsoluteSizes)
    (unbroken : ∀ name ∈ program.labels, .char '\n' ∉ name) :
    (image.symbols.names = program.labels ∧
      Image.Lists (config.wordSize.bits / 4) image.symbolListing image.symbols.symbols) ∧
    ∀ other otherConfig otherImage, assemble other otherConfig = .ok otherImage →
      other.AbsoluteSizes → (∀ name ∈ other.labels, .char '\n' ∉ name) →
      otherImage.symbolListing = image.symbolListing →
      otherImage.symbols.symbols.map (fun s => (s.name, s.address, s.segment)) =
        image.symbols.symbols.map fun s => (s.name, s.address, s.segment) := by
  obtain ⟨layout, blocks, passes⟩ := assemble_eq_ok_iff.mp assembled
  have listed := passes.symbolFile absolute unbroken
  refine ⟨⟨passes.names_eq, listed⟩, ?_⟩
  intro other otherConfig otherImage otherAssembled otherAbsolute otherUnbroken same
  obtain ⟨_, _, otherPasses⟩ := assemble_eq_ok_iff.mp otherAssembled
  have otherListed := otherPasses.symbolFile otherAbsolute otherUnbroken
  rw [same] at otherListed
  exact otherListed.map_eq listed

/-- A program with labels that look like ends and heads of lines. -/
def Program.misleading : Program :=
  { data := [⟨.block (.numeral ⟨.dec, 3, false, "3"⟩), some "a 0x0000 data"⟩]
    instructions := [⟨.form (.jump .jmp (.label "# b ")), some "# b "⟩] }

theorem assemble_symbolListing_misleading :
    ∃ image, assemble .misleading .sample = .ok image ∧
      image.symbolListing = Image.lines ["# Symbol table", "# Generated by vasm",
        "a 0x0000 data 0x0001FFFE data", "# b  0x00020001 instructions"] ∧
      Image.Lists 8 image.symbolListing image.symbols.symbols := by
  have absolute : Program.misleading.AbsoluteSizes := by decide
  have unbroken : ∀ name ∈ Program.misleading.labels, .char '\n' ∉ name := by decide +kernel
  obtain ⟨image, assembled, listing⟩ : ∃ image, assemble .misleading .sample = .ok image ∧
      image.symbolListing = Image.lines ["# Symbol table", "# Generated by vasm",
        "a 0x0000 data 0x0001FFFE data", "# b  0x00020001 instructions"] :=
    ⟨_, rfl, by decide +kernel⟩
  exact ⟨image, assembled, listing, (assemble_symbolListing assembled absolute unbroken).1.2⟩

/-- A program whose first area has size -4. -/
def Program.sunken : Program :=
  { data := [⟨.block (.numeral ⟨.hex, -4, false, "-0x4"⟩), none⟩,
      ⟨.block (.numeral ⟨.dec, 8, false, "8"⟩), some "x"⟩]
    instructions := [] }

/-- The label after the area lies at address -4, and its line has a sign for a digit. -/
theorem not_lists_of_negative_magnitude :
    ∃ image, assemble .sunken .standard = .ok image ∧
      image.symbolListing = Image.lines ["# Symbol table", "# Generated by vasm",
        "x 0x-0000004 data"] ∧
      ¬ Image.Lists 8 image.symbolListing image.symbols.symbols := by
  obtain ⟨image, assembled, listing, symbols⟩ : ∃ image, assemble .sunken .standard = .ok image ∧
      image.symbolListing = Image.lines ["# Symbol table", "# Generated by vasm",
        "x 0x-0000004 data"] ∧
      image.symbols.symbols.map Symbol.address = [-4] :=
    ⟨_, rfl, by decide +kernel, by decide +kernel⟩
  refine ⟨image, assembled, listing, ?_⟩
  intro ⟨lines, _, gives⟩
  obtain ⟨s, single, address⟩ := List.map_eq_singleton_iff.mp symbols
  rw [single] at gives
  cases gives with
  | cons first _ =>
    obtain ⟨digits, -, -, -, value⟩ := first
    rw [address] at value
    exact absurd value (by omega)

end Assembler
