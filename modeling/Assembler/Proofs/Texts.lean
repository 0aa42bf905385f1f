import Assembler.Proofs.Ranges

/-!
# The texts of an image

The passes leave nothing in an image that cannot be written: data elements keep the literals that
were read, which have a spelling, and every field of an instruction is a register, a number of at
most 32 bits or an address. So an image of a program that was read has an image file and a listing.
-/

namespace Assembler

/-! ## Elements and lines -/

theorem Operand.IsNumeral.text {o : Operand} (numeral : o.IsNumeral) :
    ∃ s : String, o.text? = some (Text.ofString s) := by
  obtain ⟨l, rfl, read⟩ := numeral
  obtain ⟨s, same⟩ := read.whole
  exact ⟨s, by rw [← same]; exact read.spelling⟩

/-- An element that was read is written as a string. -/
theorem Element.WasRead.text {element : Element} (read : element.WasRead) :
    ∃ s : String, element.text = .ok (Text.ofString s) := by
  have whole : ∃ text : Text, element.text? = some text ∧ text.Whole := by
    cases element with
    | block size =>
      obtain ⟨s, spelled⟩ := Operand.IsNumeral.text read
      simp [text?, spelled]
    | list kind values =>
      have joined : ∃ s : String, Text.joined? ", " (values.map Operand.text?) =
          some (Text.ofString s) := by
        apply Text.exists_joined? (Text.whole_ofString _)
        intro part member
        obtain ⟨o, inside, rfl⟩ := List.mem_map.mp member
        exact (read o inside).text
      obtain ⟨s, same⟩ := joined
      simp [text?, same]
  obtain ⟨text, found, s, rfl⟩ := whole
  exact ⟨s, by simp [Element.text, written, found]⟩

namespace Image

/-! ## Final fields -/

theorem openOperand?_of_final {form : Form} (final : ∀ field ∈ form.fields, field.2.Final) :
    openOperand? form = none := by
  unfold openOperand?
  rw [List.findSome?_eq_none_iff]
  rintro ⟨name, field⟩ member
  have last := final _ member
  cases field with
  | register r => rfl
  | operand o =>
    obtain ⟨n, rfl | rfl, -⟩ := last <;> rfl

theorem firstOpen?_of_final {image : Image}
    (final : ∀ p ∈ image.instructions, ∃ form, p.instruction = .form form ∧
      ∀ field ∈ form.fields, field.2.Final) : image.firstOpen? = none := by
  unfold firstOpen?
  rw [List.findSome?_eq_none_iff]
  intro p member
  obtain ⟨form, isForm, last⟩ := final p member
  simp only [isForm]
  exact openOperand?_of_final last

end Image

/-! ## Images of programs that were read -/

namespace Assembled

variable {program : Program} {config : Config} {image : Image} {layout : Layout}
  {blocks : List (List PlacedInstruction)}

theorem wordBits_eq (assembled : Assembled program config image layout blocks) :
    image.wordBits = config.wordSize.bits := by
  obtain ⟨data, code, -, -, rfl⟩ := Layout.build_eq_ok_iff.mp assembled.built
  rw [assembled.image_eq]
  rfl

theorem addressColumn_eq (assembled : Assembled program config image layout blocks) :
    image.addressColumn = .ok (config.wordSize.bits / 4) := by
  rw [Image.addressColumn, assembled.wordBits_eq]
  cases config.wordSize <;> rfl

/-- The image file holds the document of the image. -/
theorem exists_fileText (assembled : Assembled program config image layout blocks)
    (read : program.WasRead) :
    ∃ document, image.toJson = .ok document ∧ image.fileText = .ok (document.pretty ++ "\n") := by
  obtain ⟨fields, -, document, -⟩ := assembled.document read
  refine ⟨.object fields, document, ?_⟩
  simp only [Image.fileText, document, Image.firstOpen?_of_final (assembled.final read)]

theorem exists_listing (assembled : Assembled program config image layout blocks)
    (read : program.WasRead) : ∃ text, image.listing = .ok text := by
  have data : ∀ d ∈ image.data, ∃ text, Image.dataLine (config.wordSize.bits / 4) d = .ok text := by
    intro d member
    obtain ⟨text, written⟩ := (assembled.data_wasRead read member).text
    exact ⟨_, Outcome.map_eq_ok_iff.mpr ⟨text, written, rfl⟩⟩
  have instructions : ∀ p ∈ image.instructions,
      ∃ text, Image.instructionLine (config.wordSize.bits / 4) p = .ok text := by
    intro p member
    obtain ⟨form, isForm, last⟩ := assembled.final read p member
    obtain ⟨text, written⟩ := Form.text_of_final last
    rw [Image.instructionLine, isForm]
    exact ⟨_, Outcome.map_eq_ok_iff.mpr ⟨text, written, rfl⟩⟩
  obtain ⟨above, dataLines⟩ := Image.exists_collect_iff.mpr data
  obtain ⟨below, instructionLines⟩ := Image.exists_collect_iff.mpr instructions
  simp only [Image.listing, assembled.addressColumn_eq, dataLines]
  exact ⟨_, Outcome.map_eq_ok_iff.mpr ⟨below, instructionLines, rfl⟩⟩

end Assembled

end Assembler
