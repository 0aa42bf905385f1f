import Assembler.Proofs.Json
import Assembler.Proofs.Loading
import Assembler.Proofs.Texts
import Assembler.Proofs.Warnings

/-!
# The files of an image

Beside fixed words and numbers, an image holds the labels of the program and nothing else that was
in the input. So its document can be read back from the image file, since the strings of an input
are joined and all numbers lie near the address space. The listing and the symbol file have bytes
exactly if the labels have: each of them holds all labels, as they are.
-/

namespace Assembler

/-! ## Labels that were read -/

theorem Json.mem_of_field? {name : Text} {fields : List (Text × Json)} {value : Json}
    (found : field? name fields = some value) : (name, value) ∈ fields := by
  induction fields with
  | nil => cases found
  | cons field rest ih =>
    obtain ⟨key, other⟩ := field
    rw [field?] at found
    split at found
    · rename_i same
      cases found
      exact same ▸ List.mem_cons_self
    · exact List.mem_cons_of_mem _ (ih found)

namespace Json.Joined

variable {name : Text} {fields : List (Text × Json)} {value : Json}

theorem of_field? (joined : Joined (.object fields)) (found : field? name fields = some value) :
    value.Joined := by
  cases joined with
  | object names each => exact each _ (mem_of_field? found)

theorem of_mem {items : List Json} (joined : Joined (.array items)) {item : Json}
    (member : item ∈ items) : item.Joined := by
  cases joined with
  | array each => exact each item member

theorem of_string {t : Text} (joined : Joined (.string t)) : t.Joined := by
  cases joined with
  | string joined => exact joined

end Json.Joined

namespace Document

theorem LabelIs.joined {entry : List (Text × Json)} {label : Option Text}
    (labelled : LabelIs entry label) (joined : Json.Joined (.object entry)) :
    ∀ name ∈ label, name.Joined := by
  cases labelled with
  | absent missing => nofun
  | null given => nofun
  | named given nonempty =>
    rintro name ⟨⟩
    exact (joined.of_field? given).of_string

theorem ListIs.joined {key : Text} {fields : List (Text × Json)} {items : List Json}
    (listed : ListIs key fields items) (joined : Json.Joined (.object fields)) :
    ∀ item ∈ items, item.Joined := by
  cases listed with
  | absent missing => nofun
  | given given => exact fun item => (joined.of_field? given).of_mem

/-- The labels of a program are strings of its document. -/
theorem Describes.joined {document : Json} {program : Program}
    (describes : Describes document program) (joined : document.Joined) :
    ∀ name ∈ program.labels, name.Joined := by
  obtain ⟨data, instructions, ⟨fields, rfl, -, dataListed, instructionsListed⟩, dataIs,
    instructionsAre⟩ := describes
  intro name member
  rcases List.mem_append.mp member with inData | inInstructions
  · obtain ⟨statement, inside, labelled⟩ := List.mem_filterMap.mp inData
    obtain ⟨value, listed, entry, rfl, -, label⟩ := Correspondence.mem_right dataIs inside
    exact label.joined (dataListed.joined joined _ listed) name labelled
  · obtain ⟨statement, inside, labelled⟩ := List.mem_filterMap.mp inInstructions
    obtain ⟨value, listed, entry, _, rfl, -, -, -, label⟩ :=
      Correspondence.mem_right instructionsAre inside
    exact label.joined (instructionsListed.joined joined _ listed) name labelled

end Document

theorem Program.ofFile_joined {path : String} {bytes : List UInt8} {program : Program}
    (read : Program.ofFile path bytes = .ok program) : ∀ name ∈ program.labels, name.Joined := by
  unfold Program.ofFile at read
  split at read
  · cases read
  · dsimp only at read
    split at read
    · rename_i document parsed
      exact (Document.ofJson_eq_ok_iff.mp read).joined (Json.joined_of_ofChars parsed)
    · cases read
    · cases read

/-! ## The document of an image -/

namespace Image

theorem labelJson_storable {label : Option Text} (joined : ∀ name ∈ label, name.Joined) :
    (labelJson label).Storable := by
  cases label with
  | none => exact .null
  | some name => exact .string (joined name rfl)

theorem string_storable (s : String) : (Json.string s).Storable :=
  .string (Text.joined_ofString s)

theorem dataJson_storable {d : PlacedData} (address : Text.isWritable d.address = true)
    (size : Text.isWritable d.size = true)
    (values : ∀ value ∈ d.values, Text.isWritable value = true)
    (joined : ∀ name ∈ d.label, name.Joined) : (dataJson d).Storable := by
  have items : (Json.array (d.values.map .int)).Storable := by
    refine .array fun item member => ?_
    obtain ⟨value, inside, rfl⟩ := List.mem_map.mp member
    exact .int (values value inside)
  refine .object (by simp) (by simp [Text.joined_ofString]) ?_
  simp only [List.forall_mem_cons]
  exact ⟨.int address, labelJson_storable joined, string_storable _, .int size, items,
    string_storable _, List.forall_mem_nil _⟩

theorem fieldJson_storable {field : Field} (final : field.Final) : (fieldJson field).Storable := by
  cases field with
  | register r => exact string_storable _
  | operand o =>
    obtain ⟨n, rfl | rfl, writable⟩ := final
    · exact .int writable
    · exact .int writable

theorem operands_storable {form : Form} (final : ∀ field ∈ form.fields, field.2.Final) :
    (Json.object (form.fields.map fun field =>
      (Text.ofString field.1, fieldJson field.2))).Storable := by
  refine .object ?_ ?_ ?_
  · cases form <;> simp [Form.fields]
  · intro field member
    obtain ⟨_, -, rfl⟩ := List.mem_map.mp member
    exact Text.joined_ofString _
  · intro field member
    obtain ⟨source, inside, rfl⟩ := List.mem_map.mp member
    exact fieldJson_storable (final source inside)

theorem instructionJson_storable {p : PlacedInstruction} {form : Form} {entry : Json}
    (written : instructionJson fieldJson p = .ok entry) (isForm : p.instruction = .form form)
    (final : ∀ field ∈ form.fields, field.2.Final) (address : Text.isWritable p.address = true)
    (joined : ∀ name ∈ p.label, name.Joined) : entry.Storable := by
  obtain ⟨text, spelled⟩ := Form.text_of_final final
  rw [instructionJson, isForm] at written
  simp only [spelled, Except.map, Except.ok.injEq] at written
  subst written
  have origin : (labelJson (p.expandedFrom.map fun op => Text.ofString op.name)).Storable := by
    refine labelJson_storable fun name member => ?_
    obtain ⟨op, -, rfl⟩ := Option.map_eq_some_iff.mp member
    exact Text.joined_ofString _
  refine .object (by simp) (by simp [Text.joined_ofString]) ?_
  simp only [List.forall_mem_cons]
  exact ⟨.int address, labelJson_storable joined, string_storable _, string_storable _,
    operands_storable final, origin, string_storable _, string_storable _,
    List.forall_mem_nil _⟩

theorem symbolJson_storable {s : Symbol} (address : Text.isWritable s.address = true)
    (joined : s.name.Joined) : (symbolJson s).Storable := by
  refine .object (by simp) (by simp [Text.joined_ofString]) ?_
  simp only [List.forall_mem_cons]
  exact ⟨.string joined, .int address, string_storable _, List.forall_mem_nil _⟩

end Image

/-! ## Images -/

/-- A number from zero to the end of the address space can be written. -/
theorem WordSize.isWritable_of_le {w : WordSize} {n : Int} (low : 0 ≤ n)
    (high : n ≤ Bits.patterns w.bits) : Text.isWritable n = true := by
  have most : Bits.patterns w.bits ≤ Bits.patterns 32 := by cases w <;> decide
  have least : -Bits.patterns 32 ≤ 0 := by decide
  exact Text.isWritable_of_small (least.trans low) (high.trans most)

theorem WordSize.isWritable_of_holds {w : WordSize} {n : Int} (inside : w.holds n = true) :
    Text.isWritable n = true := by
  obtain ⟨low, high⟩ := WordSize.holds_iff.mp inside
  exact isWritable_of_le low high.le

/-- The bounds of the segments of an image. -/
structure Image.Bounded (image : Image) (w : WordSize) : Prop where
  dataBase : 0 ≤ image.dataBase
  dataSize : 0 ≤ image.dataSize
  dataEnd : image.dataBase + image.dataSize ≤ Bits.patterns w.bits
  instructionBase : 0 ≤ image.instructionBase
  instructionSize : 0 ≤ image.instructionSize
  instructionEnd : image.instructionBase + image.instructionSize ≤ Bits.patterns w.bits

/-- The warning about a statement names a label of the program. -/
theorem Program.mismatches_joined {program : Program}
    (joined : ∀ name ∈ program.labels, name.Joined) {text : Text}
    (member : text ∈ program.mismatches) : text.Joined := by
  have label : ∀ {name segment}, program.segmentOf? name = some segment → name.Joined := by
    intro name segment found
    apply joined
    unfold Program.segmentOf? at found
    split at found
    · rename_i inside
      exact List.mem_append_left _ inside
    · split at found
      · rename_i inside
        exact List.mem_append_right _ inside
      · cases found
  obtain ⟨⟨statement, k⟩, -, warned⟩ := List.mem_filterMap.mp member
  simp only [Program.mismatch?] at warned
  split at warned
  · split at warned
    · rename_i found _
      cases warned
      rw [← Text.ofString_append]
      exact (label found).between _ _
    · rename_i found _
      cases warned
      rw [← Text.ofString_append]
      exact (label found).between _ _
    · cases warned
  · cases warned

namespace Assembled

variable {program : Program} {config : Config} {image : Image} {layout : Layout}
  {blocks : List (List PlacedInstruction)}

theorem bounded (assembled : Assembled program config image layout blocks)
    (read : program.WasRead) : image.Bounded config.wordSize := by
  obtain ⟨data, code, dataSteps, codeSteps, rfl⟩ := Layout.build_eq_ok_iff.mp assembled.built
  have dataBase := WordSize.holds_iff.mp config.dataBase_holds
  have dataGrows := (dataSteps.le_start Layout.placeData_records
    (Layout.data_size_nonneg read.absoluteSizes)).1
  have dataEnd := dataSteps.next_le dataBase.2.le
  have codeBase := Layout.instructionBase_nonneg read.absoluteSizes dataSteps
  have codeStart : config.instructionBase.getD data.next ≤ Bits.patterns config.wordSize.bits := by
    cases configured : config.instructionBase with
    | none => exact dataEnd
    | some base =>
      exact (WordSize.holds_iff.mp (config.instructionBase_holds base configured)).2.le
  have codeGrows := (codeSteps.le_start Layout.placeInstruction_records
    fun _ _ {_ _ _ _} => Layout.instruction_size_nonneg).1
  have codeEnd := codeSteps.next_le codeStart
  rw [assembled.image_eq]
  constructor
  · exact dataBase.1
  · exact sub_nonneg.mpr dataGrows
  · exact (add_sub_cancel config.dataBase data.next).trans_le dataEnd
  · exact codeBase
  · exact sub_nonneg.mpr codeGrows
  · exact (add_sub_cancel (config.instructionBase.getD data.next) code.next).trans_le codeEnd

/-- What holds of the labels of a program, and of an empty one, holds of those in its image. -/
theorem forall_label (assembled : Assembled program config image layout blocks)
    {P : Text → Prop} (empty : P []) (each : ∀ name ∈ program.labels, P name) :
    (∀ d ∈ image.data, ∀ name ∈ d.label, P name) ∧
      ∀ p ∈ image.instructions, ∀ name ∈ p.label, P name := by
  have defined := (Image.build_eq_ok_iff.mp assembled.checked).1.2
  have known : ∀ l ∈ Image.placedLabels image.data image.instructions, P l.name := by
    intro l member
    rw [assembled.data_eq] at member
    obtain ⟨s, found, -⟩ := defined l member
    obtain ⟨inside, same⟩ := SymbolTable.mem_of_find? found
    apply each
    rw [← same, ← Layout.build_names assembled.built, SymbolTable.names,
      ← (resolve_frame layout.symbols blocks.flatten).1]
    exact List.mem_map_of_mem inside
  have labelled : ∀ name address location, name = [] ∨
      Image.labelled? (some name) address location = some ⟨name, address, location⟩ := by
    intro name address location
    by_cases blank : name = []
    · exact .inl blank
    · exact .inr (if_neg blank)
  constructor
  · rintro d member name own
    rcases labelled name d.address d.location with rfl | placed
    · exact empty
    · rw [← show d.label = some name from own] at placed
      exact known _ (List.mem_append_left _ (List.mem_filterMap.mpr ⟨d, member, placed⟩))
  · rintro p member name own
    rcases labelled name p.address p.location with rfl | placed
    · exact empty
    · rw [← show p.label = some name from own] at placed
      exact known _ (List.mem_append_right _ (List.mem_filterMap.mpr ⟨p, member, placed⟩))

/-- The warnings of an image hold labels of the program beside fixed words and numbers. -/
theorem warnings_joined (assembled : Assembled program config image layout blocks)
    (joined : ∀ name ∈ program.labels, name.Joined) : ∀ text ∈ image.warnings, text.Joined := by
  rw [assembled.warnings_eq_mismatches, assembled.layout_warnings]
  have overlap : image.overlapWarning.Joined := by
    apply Text.Whole.joined
    simp [Image.overlapWarning, Layout.overlapWarning]
  intro text member
  rcases List.mem_append.mp member with first | other
  · split at first
    · rw [List.mem_singleton.mp first]
      exact overlap
    · cases first
  · exact Program.mismatches_joined joined other

section Document

variable (assembled : Assembled program config image layout blocks) (read : program.WasRead)

include assembled read

theorem dataJson_storable (joined : ∀ name ∈ program.labels, name.Joined) {d : PlacedData}
    (member : d ∈ image.data) : (Image.dataJson d).Storable := by
  have spans := Layout.build_data_spans read.absoluteSizes assembled.built d
    (assembled.data_eq ▸ member)
  have nonneg := Element.size_nonneg (assembled.data_sizes member).1
    (assembled.data_wasRead read member).absoluteSize
  have room : d.size ≤ Bits.patterns config.wordSize.bits := by
    have start := spans.start
    have ends := spans.ends
    omega
  refine Image.dataJson_storable (WordSize.isWritable_of_holds spans.holds_start)
    (WordSize.isWritable_of_le nonneg room) ?_ ((assembled.forall_label .nil joined).1 d member)
  intro value inside
  obtain ⟨kind, -, -, low, high⟩ := assembled.data_value read member inside
  have most : (2 : Int) ^ (8 * kind.width) - 1 ≤ Bits.patterns 32 := by cases kind <;> decide
  have least : -Bits.patterns 32 ≤ 0 := by decide
  exact Text.isWritable_of_small (least.trans low) (high.trans most)

theorem instructionJson_storable (joined : ∀ name ∈ program.labels, name.Joined)
    {p : PlacedInstruction} (member : p ∈ image.instructions) {entry : Json}
    (written : Image.instructionJson Image.fieldJson p = .ok entry) : entry.Storable := by
  obtain ⟨form, isForm, -, -, encodable⟩ := assembled.encodable read member
  have inside := assembled.instruction_byte read member le_rfl config.wordSize.bytes_pos
  rw [add_zero] at inside
  exact Image.instructionJson_storable written isForm encodable.final
    (WordSize.isWritable_of_holds inside) ((assembled.forall_label .nil joined).2 p member)

theorem symbolJson_storable (joined : ∀ name ∈ program.labels, name.Joined) {s : Symbol}
    (member : s ∈ image.symbols.symbols) : (Image.symbolJson s).Storable := by
  have label : s.name ∈ program.labels := assembled.names_eq ▸ List.mem_map_of_mem member
  rw [assembled.symbols_eq] at member
  have held := Layout.build_symbols_hold read.absoluteSizes assembled.built s member
  exact Image.symbolJson_storable (WordSize.isWritable_of_holds held) (joined s.name label)

/-- The document of an image can be read back from its text. -/
theorem document_storable (joined : ∀ name ∈ program.labels, name.Joined) {document : Json}
    (written : image.toJson = .ok document) : document.Storable := by
  obtain ⟨entries, instructions, rfl⟩ := Outcome.map_eq_ok_iff.mp written
  have data : (Json.array (image.data.map Image.dataJson)).Storable :=
    .array (List.forall_mem_map.mpr fun d => assembled.dataJson_storable read joined)
  have code : (Json.array entries).Storable :=
    .array (Image.forall_of_collect instructions
      fun p member entry => assembled.instructionJson_storable read joined member)
  have symbols : (Json.array (image.symbols.symbols.map Image.symbolJson)).Storable :=
    .array (List.forall_mem_map.mpr fun s => assembled.symbolJson_storable read joined)
  have warnings : (Json.array (image.warnings.map .string)).Storable :=
    .array (List.forall_mem_map.mpr fun text member =>
      .string (assembled.warnings_joined joined text member))
  have bits : image.wordBits ≤ Bits.patterns config.wordSize.bits ∧ 0 ≤ image.wordBits := by
    rw [assembled.wordBits_eq]
    cases config.wordSize <;> decide
  have bounded := assembled.bounded read
  obtain ⟨dataBase, dataSize, dataEnd, codeBase, codeSize, codeEnd⟩ := bounded
  have int : ∀ {n : Int}, 0 ≤ n → n ≤ Bits.patterns config.wordSize.bits →
      (Json.int n).Storable := fun low high => .int (WordSize.isWritable_of_le low high)
  refine .object (by simp) (by simp [Text.joined_ofString]) ?_
  simp only [List.forall_mem_cons]
  exact ⟨int bits.2 bits.1, int dataBase (by omega), int dataSize (by omega),
    int codeBase (by omega), int codeSize (by omega), data, code, symbols, warnings,
    List.forall_mem_nil _⟩

end Document

end Assembled

/-! ## Listings -/

namespace Image

@[simp] theorem whole_lines {ls : List Text} : (lines ls).Whole ↔ ∀ l ∈ ls, l.Whole := by
  rw [lines, Text.whole_append, Text.whole_intercalate (Text.whole_ofString _)]
  exact and_iff_left (Text.whole_ofString _)

/-- The symbol file has bytes exactly if the labels have. -/
theorem whole_symbolListing {image : Image} :
    image.symbolListing.Whole ↔ ∀ name ∈ image.symbols.names, name.Whole := by
  simp [symbolListing, symbolLine, SymbolTable.names]

theorem whole_listingHead (digits : Nat) : ∀ l ∈ listingHead digits, l.Whole := by
  simp [listingHead]

theorem whole_listingLine {digits : Nat} {address : Int} {label : Option Text} {text : Text}
    (labelled : ∀ name ∈ label, name.Whole) (whole : text.Whole) :
    (listingLine digits address label text).Whole := by
  have column : (labelColumn label).Whole := by
    cases label with
    | none => simp [labelColumn]
    | some name =>
      have named := labelled name rfl
      simp only [labelColumn, Text.whole_padRight]
      split
      · exact Text.whole_nil
      · simpa using named
  simp [listingLine, column, whole]

end Image

namespace Assembled

variable {program : Program} {config : Config} {image : Image} {layout : Layout}
  {blocks : List (List PlacedInstruction)}

theorem whole_dataLine (assembled : Assembled program config image layout blocks)
    (read : program.WasRead) {d : PlacedData} (member : d ∈ image.data)
    (labelled : ∀ name ∈ d.label, name.Whole) {digits : Nat} {line : Text}
    (isLine : Image.dataLine digits d = .ok line) : line.Whole := by
  obtain ⟨s, spelled⟩ := (assembled.data_wasRead read member).text
  rw [Image.dataLine, spelled] at isLine
  cases isLine
  exact Image.whole_listingLine labelled (Text.whole_ofString s)

theorem whole_instructionLine (assembled : Assembled program config image layout blocks)
    (read : program.WasRead) {p : PlacedInstruction} (member : p ∈ image.instructions)
    (labelled : ∀ name ∈ p.label, name.Whole) {digits : Nat} {line : Text}
    (isLine : Image.instructionLine digits p = .ok line) : line.Whole := by
  obtain ⟨form, isForm, last⟩ := assembled.final read p member
  obtain ⟨s, spelled⟩ := Form.text_of_final last
  have text : p.instruction.text = .ok (Text.ofString s) := by
    rw [isForm]
    exact spelled
  rw [Image.instructionLine, text] at isLine
  cases isLine
  refine Image.whole_listingLine labelled ?_
  unfold Image.withPseudo
  split <;> simp

/-- The listing has bytes exactly if the labels have. -/
theorem whole_listing (assembled : Assembled program config image layout blocks)
    (read : program.WasRead) {listing : Text} (listed : image.listing = .ok listing) :
    listing.Whole ↔ ∀ name ∈ image.symbols.names, name.Whole := by
  simp only [Image.listing, assembled.addressColumn_eq] at listed
  split at listed
  · cases listed
  rename_i data dataListed
  obtain ⟨instructions, instructionsListed, rfl⟩ := Outcome.map_eq_ok_iff.mp listed
  have symbols : (∀ l ∈ image.symbols.symbols.map
      (Image.symbolColumn (config.wordSize.bits / 4)), l.Whole) ↔
      ∀ name ∈ image.symbols.names, name.Whole := by
    simp [Image.symbolColumn, SymbolTable.names]
  rw [Image.whole_lines, ← symbols]
  constructor
  · intro all l member
    exact all l (List.mem_append_right _ member)
  · intro names
    obtain ⟨dataLabels, instructionLabels⟩ := assembled.forall_label Text.whole_nil
      (assembled.names_eq ▸ symbols.mp names)
    have head := Image.whole_listingHead (config.wordSize.bits / 4)
    have dataWhole : ∀ l ∈ data, l.Whole :=
      Image.forall_of_collect dataListed fun d member line =>
        assembled.whole_dataLine read member (dataLabels d member)
    have instructionsWhole : ∀ l ∈ instructions, l.Whole :=
      Image.forall_of_collect instructionsListed fun p member line =>
        assembled.whole_instructionLine read member (instructionLabels p member)
    simp only [List.forall_mem_append]
    exact ⟨⟨⟨⟨head, dataWhole⟩, instructionsWhole⟩, by simp⟩, names⟩

end Assembled

end Assembler
