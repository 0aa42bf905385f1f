import Assembler.Proofs.AddressSpace
import Assembler.Proofs.Assembly
import Assembler.Proofs.Checking

/-!
# Ranges

What an encoder may rely on. In the image of a program from a document every instruction is a
machine instruction of the class of its opcode, every operand is a number in the range of its field,
every byte has an address of the address space, and the document of the image holds integers and
registers only.
-/

namespace Assembler

/-! ## Encodable instructions -/

/-- A machine instruction with numbers that fit their fields, on a machine with words of `bits`
bits. -/
def Form.Encodable (bits : Nat) : Form → Prop
  | .immSigned _ _ _ o | .loadStore _ _ o _ => o.NumberIn ⟨-2 ^ 15, 2 ^ 15 - 1⟩
  | .immUnsigned _ _ _ o => o.NumberIn ⟨0, 2 ^ 16 - 1⟩
  | .loadImm _ _ o => o.NumberIn ⟨-2 ^ 15, 2 ^ 15 - 1⟩ ∨ o.AddressIn ⟨0, 2 ^ 16 - 1⟩
  | .setImm _ _ o => o.NumberIn ⟨0, 2 ^ 16 - 1⟩ ∨ o.AddressIn ⟨0, 2 ^ 16 - 1⟩
  | .branch _ _ target | .jump _ target => target.AddressIn ⟨0, 2 ^ bits - 1⟩
  | .push _ | .pop _ | .loadWord .. | .loadAddress .. => False
  | .alu .. | .flop .. | .dataShuffle .. | .simple _ | .jumpReg .. => True

open Resolution in
/-- Replacing the label of a checked instruction makes it encodable. -/
theorem Form.Checked.encodable {form final : Form} {w : WordSize} {symbols : SymbolTable}
    {location : Option Location} (checked : form.Checked w.bits)
    (hold : ∀ s ∈ symbols.symbols, w.holds s.address = true)
    (done : resolveForm symbols location form = .ok final) : final.Encodable w.bits := by
  cases form with
  | immSigned | loadStore =>
    cases done
    simpa only [Encodable, Checked, Bits.signedRange_immediate] using checked
  | immUnsigned =>
    cases done
    simpa only [Encodable, Checked, Bits.unsignedRange_immediate] using checked
  | loadImm op rd o =>
    obtain ⟨low, lower, rfl⟩ := Outcome.map_eq_ok_iff.mp done
    rcases checked with ⟨name, rfl⟩ | ⟨n, rfl, inside⟩
    · obtain ⟨s, -, rfl⟩ := resolveLow_label.mp lower
      have range := Bits.split_low_range s.address Bits.immediateWidth
      rw [← Bits.unsignedRange_holds_iff, Bits.unsignedRange_immediate] at range
      exact .inr ⟨_, rfl, range⟩
    · cases lower
      exact .inl ⟨n, rfl, Bits.signedRange_immediate ▸ inside⟩
  | setImm op rd o =>
    obtain ⟨high, upper, rfl⟩ := Outcome.map_eq_ok_iff.mp done
    rcases checked with ⟨name, rfl⟩ | ⟨n, rfl, inside⟩
    · obtain ⟨s, -, range, rfl⟩ := resolveHigh_label.mp upper
      exact .inr ⟨_, rfl, Bits.unsignedRange_immediate ▸ range⟩
    · cases upper
      exact .inl ⟨n, rfl, Bits.unsignedRange_immediate ▸ inside⟩
  | branch | jump =>
    obtain ⟨target, resolved, rfl⟩ := Outcome.map_eq_ok_iff.mp done
    rcases checked with ⟨name, rfl⟩ | ⟨_, rfl, n, rfl, inside⟩
    · obtain ⟨s, found, rfl⟩ := resolveTarget_label.mp resolved
      have range := hold s (SymbolTable.mem_of_find? found).1
      exact ⟨_, rfl, Bits.unsignedRange_eq w.bits ▸ range⟩
    · cases resolved
      exact ⟨n, rfl, Bits.unsignedRange_eq w.bits ▸ inside⟩
  | push | pop | loadWord | loadAddress => exact checked.elim
  | _ =>
    cases done
    trivial

/-! ## The document of an image -/

/-- A value that a document can hold: a number or an address that can be written. -/
def Operand.Final (o : Operand) : Prop :=
  ∃ n, (o = .number n ∨ o = .address n) ∧ Text.isWritable n = true

/-- A field that a document can hold. -/
def Field.Final : Field → Prop
  | .register _ => True
  | .operand o => o.Final

/-- An integer, or the text of a register. -/
def Json.IsOperand (value : Json) : Prop :=
  (∃ n, value = .int n) ∨ ∃ r : Register, value = .string r.text

theorem Field.Final.json {field : Field} (final : field.Final) :
    (Image.fieldJson field).IsOperand := by
  cases field with
  | register r => exact .inr ⟨r, rfl⟩
  | operand o =>
    obtain ⟨n, rfl | rfl, -⟩ := final
    · exact .inl ⟨n, rfl⟩
    · exact .inl ⟨n, rfl⟩

theorem Field.Final.text {field : Field} (final : field.Final) :
    ∃ s : String, field.text? = some (Text.ofString s) := by
  cases field with
  | register r => exact ⟨_, rfl⟩
  | operand o =>
    obtain ⟨n, rfl | rfl, writable⟩ := final
    · exact ⟨Text.decimal n, by simp [Field.text?, Operand.text?, Text.decimal?, writable]⟩
    · exact ⟨_, rfl⟩

theorem Operand.NumberIn.final {o : Operand} {range : Range} (number : o.NumberIn range)
    (low : -Bits.patterns 32 ≤ range.low) (high : range.high ≤ Bits.patterns 32) : o.Final := by
  obtain ⟨n, rfl, inside⟩ := number
  obtain ⟨above, below⟩ := Range.holds_iff.mp inside
  exact ⟨n, .inl rfl, Text.isWritable_of_small (low.trans above) (below.trans high)⟩

theorem Operand.AddressIn.final {o : Operand} {range : Range} (address : o.AddressIn range)
    (low : -Bits.patterns 32 ≤ range.low) (high : range.high ≤ Bits.patterns 32) : o.Final := by
  obtain ⟨n, rfl, inside⟩ := address
  obtain ⟨above, below⟩ := Range.holds_iff.mp inside
  exact ⟨n, .inr rfl, Text.isWritable_of_small (low.trans above) (below.trans high)⟩

theorem Form.Encodable.final {form : Form} {w : WordSize} (encodable : form.Encodable w.bits) :
    ∀ field ∈ form.fields, field.2.Final := by
  have signed : ∀ o : Operand, o.NumberIn ⟨-2 ^ 15, 2 ^ 15 - 1⟩ → o.Final :=
    fun o number => number.final (by decide) (by decide)
  have unsigned : ∀ o : Operand, o.NumberIn ⟨0, 2 ^ 16 - 1⟩ → o.Final :=
    fun o number => number.final (by decide) (by decide)
  have half : ∀ o : Operand, o.AddressIn ⟨0, 2 ^ 16 - 1⟩ → o.Final :=
    fun o address => address.final (by decide) (by decide)
  have whole : ∀ o : Operand, o.AddressIn ⟨0, 2 ^ w.bits - 1⟩ → o.Final :=
    fun o address => address.final (by cases w <;> decide) (by cases w <;> decide)
  cases form with
  | immSigned op rd rs o | loadStore op rd o rs =>
    simpa [fields, Field.Final] using signed o encodable
  | immUnsigned op rd rs o => simpa [fields, Field.Final] using unsigned o encodable
  | loadImm op rd o =>
    simpa [fields, Field.Final] using encodable.elim (signed o) (half o)
  | setImm op rd o =>
    simpa [fields, Field.Final] using encodable.elim (unsigned o) (half o)
  | branch op rs target => simpa [fields, Field.Final] using whole target encodable
  | jump op target => simpa [fields, Field.Final] using whole target encodable
  | push | pop | loadWord | loadAddress => exact encodable.elim
  | _ => simp [fields, Field.Final]

/-- A form with final fields is written as a string. -/
theorem Form.text_of_final {form : Form} (final : ∀ field ∈ form.fields, field.2.Final) :
    ∃ s : String, form.text = .ok (Text.ofString s) := by
  have whole : ∃ text : Text, form.text? = some text ∧ text.Whole := by
    have joined : ∃ s : String, Text.joined? ", " (form.fields.map fun f => f.2.text?) =
        some (Text.ofString s) := by
      apply Text.exists_joined? (Text.whole_ofString _)
      intro part member
      obtain ⟨field, inside, rfl⟩ := List.mem_map.mp member
      exact (final field inside).text
    obtain ⟨operands, same⟩ := joined
    cases form with
    | loadStore op rd offset rbase =>
      have offsetFinal : (Field.operand offset).Final := final ("offset", _) (by simp [fields])
      obtain ⟨shown, found⟩ := offsetFinal.text
      simp only [Field.text?] at found
      simp [text?, found]
    | simple op => exact ⟨_, rfl, Text.whole_ofString _⟩
    | _ =>
      simp only [fields, List.map_cons, List.map_nil] at same
      simp [text?, fields, same]
  obtain ⟨text, found, s, rfl⟩ := whole
  exact ⟨s, by simp [Form.text, written, found]⟩

/-- An entry of the document of an image has operands of the right kinds. -/
def Json.IsEntry (entry : Json) : Prop :=
  ∃ fields operands, entry = .object fields ∧
    Json.field? "operands" fields = some (.object operands) ∧
    ∀ operand ∈ operands, operand.2.IsOperand

theorem Image.instructionJson_of_final {p : PlacedInstruction} {form : Form}
    (isForm : p.instruction = .form form) (final : ∀ field ∈ form.fields, field.2.Final) :
    ∃ entry, instructionJson fieldJson p = .ok entry ∧ entry.IsEntry := by
  obtain ⟨text, written⟩ := Form.text_of_final final
  refine ⟨_, by rw [instructionJson, isForm]; simp only [written]; rfl, _,
    form.fields.map fun f => (f.1, fieldJson f.2), rfl, rfl, ?_⟩
  intro operand member
  obtain ⟨field, inside, rfl⟩ := List.mem_map.mp member
  exact (final field inside).json

theorem Image.entries_of_final {instructions : List PlacedInstruction}
    (final : ∀ p ∈ instructions, ∃ form, p.instruction = .form form ∧
      ∀ field ∈ form.fields, field.2.Final) :
    ∃ entries, collect (instructionJson fieldJson) instructions = .ok entries ∧
      entries.length = instructions.length ∧ ∀ entry ∈ entries, entry.IsEntry := by
  have each : ∀ p ∈ instructions, ∃ entry, instructionJson fieldJson p = .ok entry ∧
      entry.IsEntry := by
    intro p member
    obtain ⟨form, isForm, own⟩ := final p member
    exact instructionJson_of_final isForm own
  obtain ⟨entries, related⟩ := Correspondence.exists_right_iff.mpr each
  refine ⟨entries, collect_eq_ok_iff.mpr (related.imp fun _ _ => And.left),
    related.length_eq.symm, ?_⟩
  intro entry member
  obtain ⟨p, -, -, isEntry⟩ := Correspondence.mem_right related member
  exact isEntry

/-! ## Images -/

/-- Everything in an image lies in its range. -/
structure InRange (config : Config) (image : Image) : Prop where
  instructions : ∀ p ∈ image.instructions, ∃ form, p.instruction = .form form ∧
    form.isPseudo = false ∧ form.opcode.instructionClass = form.shape ∧
    form.Encodable config.wordSize.bits
  document : ∃ fields entries, image.toJson = .ok (.object fields) ∧
    Json.field? "instructions" fields = some (.array entries) ∧
    entries.length = image.instructions.length ∧ ∀ entry ∈ entries, entry.IsEntry
  values : ∀ d ∈ image.data, ∀ value ∈ d.values, ∃ kind operands,
    d.element = .list kind operands ∧ 0 ≤ value ∧ value ≤ 2 ^ (8 * kind.width) - 1
  dataBytes : ∀ d ∈ image.data, ∀ offset, 0 ≤ offset → offset < d.size →
    0 ≤ d.address + offset ∧ d.address + offset ≤ 2 ^ config.wordSize.bits - 1
  instructionBytes : ∀ p ∈ image.instructions, ∀ offset, 0 ≤ offset →
    offset < (config.wordSize.bits : Int) / 8 →
    0 ≤ p.address + offset ∧ p.address + offset ≤ 2 ^ config.wordSize.bits - 1
  symbols : ∀ s ∈ image.symbols.symbols,
    0 ≤ s.address ∧ s.address ≤ 2 ^ config.wordSize.bits - 1
  frozen : image.symbols.frozen = true

theorem WordSize.range_of_holds {w : WordSize} {address : Int} (inside : w.holds address = true) :
    0 ≤ address ∧ address ≤ 2 ^ w.bits - 1 := by
  rw [WordSize.holds, Bits.unsignedRange_eq] at inside
  exact Range.holds_iff.mp inside

theorem Form.Encodable.canonical {form : Form} {bits : Nat} (encodable : form.Encodable bits) :
    form.isPseudo = false := by
  cases form with
  | push | pop | loadWord | loadAddress => exact encodable.elim
  | _ => rfl

namespace Assembled

variable {program : Program} {config : Config} {image : Image} {layout : Layout}
  {blocks : List (List PlacedInstruction)}

/-- Where an instruction of an image comes from. -/
theorem origin (assembled : Assembled program config image layout blocks) {p : PlacedInstruction}
    (member : p ∈ image.instructions) :
    ∃ (k j : Nat) (statement : Statement Instruction) (address : Int) (forms : List Form)
        (form final : Form),
      program.instructions[k]? = some statement ∧
        layout.instructionAddresses[k]? = some address ∧
        statement.body.expand config.wordSize.bits (instructionLocation k) = .ok forms ∧
        forms[j]? = some form ∧
        Resolution.resolveForm layout.symbols (instructionLocation k) form = .ok final ∧
        p.instruction = .form final ∧ p.address = address + j * config.wordSize.bytes := by
  obtain ⟨source, inside, instruction, done, rfl⟩ :=
    Correspondence.mem_right assembled.resolves member
  obtain ⟨k, j, statement, address, forms, form, found, atAddress, expanded, inForms, rfl⟩ :=
    assembled.expands.origin inside
  obtain ⟨final, resolved, rfl⟩ := Resolution.resolveInstruction_form.mp done
  rw [Nat.zero_add] at expanded resolved
  exact ⟨k, j, statement, address, forms, form, final, found, atAddress, expanded, inForms,
    resolved, rfl, rfl⟩

theorem encodable (assembled : Assembled program config image layout blocks)
    (read : program.WasRead) {p : PlacedInstruction} (member : p ∈ image.instructions) :
    ∃ form, p.instruction = .form form ∧ form.isPseudo = false ∧
      form.opcode.instructionClass = form.shape ∧ form.Encodable config.wordSize.bits := by
  obtain ⟨k, j, statement, address, forms, form, final, source, -, expanded, inForms, resolved,
    isForm, -⟩ := assembled.origin member
  obtain ⟨original, isOriginal, wasRead⟩ :=
    read.instructions statement (List.mem_of_getElem? source)
  rw [isOriginal] at expanded
  obtain ⟨checked, -, inClass⟩ := wasRead.expand_checked expanded form
    (List.mem_of_getElem? inForms)
  have held := Layout.build_symbols_hold read.absoluteSizes assembled.built
  have encodable := checked.encodable held resolved
  obtain ⟨opcode, shape⟩ := Resolution.resolveForm_frame resolved
  exact ⟨final, isForm, encodable.canonical, by rw [opcode, shape, inClass], encodable⟩

theorem final (assembled : Assembled program config image layout blocks)
    (read : program.WasRead) :
    ∀ p ∈ image.instructions, ∃ form, p.instruction = .form form ∧
      ∀ field ∈ form.fields, field.2.Final := by
  intro p member
  obtain ⟨form, isForm, -, -, encodable⟩ := assembled.encodable read member
  exact ⟨form, isForm, encodable.final⟩

/-- The bytes of an instruction lie among the words that are reserved for its statement. -/
theorem instruction_byte (assembled : Assembled program config image layout blocks)
    (read : program.WasRead) {p : PlacedInstruction} (member : p ∈ image.instructions)
    {offset : Int} (nonneg : 0 ≤ offset) (below : offset < config.wordSize.bytes) :
    config.wordSize.holds (p.address + offset) = true := by
  obtain ⟨k, j, statement, address, forms, form, final, source, atAddress, expanded, inForms, -,
    -, start⟩ := assembled.origin member
  obtain ⟨_, count, again, counted, spans⟩ :=
    Layout.build_code_spans read.absoluteSizes assembled.built atAddress
  rw [source, Option.some.injEq] at again
  subst again
  have predicted : count = forms.length :=
    Except.ok.inj (counted.symm.trans (Instruction.wordCount_of_expand expanded))
  have position : j + 1 ≤ count := by
    rw [predicted]
    exact (List.getElem?_eq_some_iff.mp inForms).1
  have bytes := config.wordSize.bytes_pos
  have room : ((j : Int) + 1) * config.wordSize.bytes ≤ count * config.wordSize.bytes :=
    mul_le_mul_of_nonneg_right (by exact_mod_cast position) bytes.le
  have before : 0 ≤ (j : Int) * config.wordSize.bytes :=
    mul_nonneg (Int.natCast_nonneg j) bytes.le
  rw [add_one_mul] at room
  rw [start, add_assoc]
  exact spans.holds_byte (by omega) (by omega)

theorem data_wasRead (assembled : Assembled program config image layout blocks)
    (read : program.WasRead) {d : PlacedData} (member : d ∈ image.data) : d.element.WasRead := by
  have source : (⟨d.element, d.label⟩ : Statement Element) ∈ program.data := by
    rw [← Layout.build_data_labels assembled.built, ← assembled.data_eq]
    exact List.mem_map.mpr ⟨d, member, rfl⟩
  exact read.data _ source

/-- The values of a data list are patterns of its width; a reserved area has none. -/
theorem data_value (assembled : Assembled program config image layout blocks)
    (read : program.WasRead) {d : PlacedData} (member : d ∈ image.data) {value : Int}
    (inside : value ∈ d.values) :
    ∃ kind operands, d.element = .list kind operands ∧ 0 ≤ value ∧
      value ≤ 2 ^ (8 * kind.width) - 1 := by
  have valued := (assembled.data_sizes member).2
  have wasRead := assembled.data_wasRead read member
  cases element : d.element with
  | block size =>
    rw [element] at valued
    rw [← Except.ok.inj valued] at inside
    cases inside
  | list kind operands =>
    rw [element] at valued wasRead
    obtain ⟨o, source, found⟩ :=
      Correspondence.mem_right (Element.valuesIn_eq_ok_iff.mp valued) inside
    obtain ⟨l, rfl, literal⟩ := wasRead o source
    obtain ⟨nonneg, below⟩ := Literal.interpret_either_range literal.nonneg
      ((interpretLiteral_eq_ok_iff kind.fieldWidth).mp found)
    rw [Bits.patterns_eq] at below
    exact ⟨kind, operands, rfl, nonneg, by omega⟩

theorem document (assembled : Assembled program config image layout blocks)
    (read : program.WasRead) :
    ∃ fields entries, image.toJson = .ok (.object fields) ∧
      Json.field? "instructions" fields = some (.array entries) ∧
      entries.length = image.instructions.length ∧ ∀ entry ∈ entries, entry.IsEntry := by
  obtain ⟨entries, written, length, areEntries⟩ :=
    Image.entries_of_final (assembled.final read)
  rw [Image.toJson, Image.toJsonWith]
  exact ⟨_, entries, Outcome.map_eq_ok_iff.mpr ⟨entries, written, rfl⟩, rfl, length, areEntries⟩

theorem inRange (assembled : Assembled program config image layout blocks)
    (read : program.WasRead) : InRange config image := by
  refine ⟨fun p => assembled.encodable read, assembled.document read,
    fun d member value => assembled.data_value read member, ?_, ?_, ?_, ?_⟩
  · intro d member offset nonneg below
    rw [assembled.data_eq] at member
    have spans := Layout.build_data_spans read.absoluteSizes assembled.built d member
    exact WordSize.range_of_holds (spans.holds_byte nonneg below)
  · intro p member offset nonneg below
    exact WordSize.range_of_holds (assembled.instruction_byte read member nonneg below)
  · intro s member
    rw [assembled.symbols_eq] at member
    have held := Layout.build_symbols_hold read.absoluteSizes assembled.built
    exact WordSize.range_of_holds (held s member)
  · rw [assembled.image_eq]
    rfl

end Assembled

/-- Everything in the image of a program from a document fits. -/
theorem assemble_inRange {document : Json} {program : Program} {config : Config} {image : Image}
    (read : Program.ofJson document = .ok program)
    (assembled : assemble program config = .ok image) : InRange config image := by
  obtain ⟨layout, blocks, passes⟩ := assemble_eq_ok_iff.mp assembled
  exact passes.inRange (Program.ofJson_wasRead read)

/-- A document with values at the ends of their ranges, and with five words of instructions. -/
def Json.edge : Json :=
  .object
    [("data", .array
      [.object [("kind", .string "word"), ("label", .string "table"),
        ("values", .array [.int (-2147483648), .string "0xFFFFFFFF"])]]),
      ("instructions", .array
        [.object [("mnemonic", .string "LDA"),
            ("operands", .array
              [.object [("register", .string "$A0")], .object [("identifier", .string "end")]])],
          .object [("mnemonic", .string "PUSH"),
            ("operands", .array [.object [("register", .string "$A0")]])],
          .object [("mnemonic", .string "JMP"), ("label", .string "end"),
            ("operands", .array [.object [("literal", .string "0xFFFF")]])]])]

def Program.edge : Program :=
  { data :=
      [⟨.list .word [.numeral ⟨.dec, 2147483648, true, "-2147483648"⟩,
        .numeral ⟨.hex, 0xFFFFFFFF, false, "0xFFFFFFFF"⟩], some "table"⟩]
    instructions :=
      [⟨.form (.loadAddress .lda .a0 (.label "end")), none⟩,
        ⟨.form (.push .a0), none⟩,
        ⟨.form (.jump .jmp (.fixed (.numeral ⟨.hex, 0xFFFF, false, "0xFFFF"⟩))), some "end"⟩] }

/-- Five words of instructions end with the address space. -/
def Config.edge : Config :=
  ⟨0, some 0xFFF6, .bits16, by decide, fun _ base => Option.some.inj base ▸ by decide⟩

theorem assemble_inRange_edge :
    ∃ image, Program.ofJson .edge = .ok .edge ∧ assemble .edge .edge = .ok image ∧
      image.instructionBase + image.instructionSize = 2 ^ 16 ∧ InRange .edge image := by
  have read : Program.ofJson .edge = .ok .edge :=
    Outcome.toOption_eq_some_iff.mp (by decide +kernel)
  exact ⟨_, read, rfl, by decide +kernel, assemble_inRange read rfl⟩

end Assembler
