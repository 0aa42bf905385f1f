import Assembler.Proofs.Assembly
import Mathlib.Tactic.Ring

/-!
# Placement

The first pass reserves words without seeing the instructions, and the second writes the
instructions without seeing the table of sizes. They agree: the instructions of an image lie one
word apart from the base of the segment on, and each statement starts at the address that the
layout gave it. The data elements tile their segment.
-/

namespace Assembler

/-! ## Consecutive instructions -/

/-- Instructions lie one word apart from an address on. -/
def Consecutive (bytes address : Int) (placed : List PlacedInstruction) : Prop :=
  ∀ (k : Nat) (p : PlacedInstruction), placed[k]? = some p → p.address = address + k * bytes

namespace Consecutive

variable {bytes address : Int} {placed later : List PlacedInstruction}

theorem append (first : Consecutive bytes address placed)
    (second : Consecutive bytes (address + placed.length * bytes) later) :
    Consecutive bytes address (placed ++ later) := by
  intro k p found
  rw [List.getElem?_append] at found
  split at found
  · exact first k p found
  · rename_i beyond
    rw [second _ p found, Nat.cast_sub (Nat.not_lt.mp beyond)]
    ring

theorem placeForms {bits : Int} {location : Location} {expandedFrom : Option Opcode}
    {label : Option Text} {forms : List Form} :
    Consecutive (WordSize.bytesIn bits) address
      (Assembler.placeForms bits location expandedFrom address label forms) := by
  intro k p found
  obtain ⟨form, -, rfl⟩ := getElem?_placeForms.mp found
  rfl

/-- Replacing labels moves no instruction. -/
theorem resolves {symbols : SymbolTable} {resolved : List PlacedInstruction}
    (consecutive : Consecutive bytes address placed)
    (related : List.Forall₂ (Resolution.Resolves symbols) placed resolved) :
    Consecutive bytes address resolved := by
  intro k q found
  obtain ⟨p, source, instruction, -, rfl⟩ := Correspondence.getElem?_right related found
  exact consecutive k p source

end Consecutive

/-- The blocks of a segment fill the words that the walk over it reserved, and no others. -/
theorem Layout.Walk.consecutive {w : WordSize} {index : Nat} {address : Int}
    {symbols : SymbolTable} {statements : List (Statement Instruction)} {walked : Walked Int}
    {blocks : List (List PlacedInstruction)}
    (steps : Walk w .instructions (placeInstruction w) index address symbols statements walked)
    (expands : Expands w.bits index statements walked.placed blocks) :
    Consecutive w.bytes address blocks.flatten ∧
      walked.next = address + blocks.flatten.length * w.bytes := by
  induction steps generalizing blocks with
  | nil =>
    cases expands
    exact ⟨fun k p found => by simp at found, by simp⟩
  | @cons index address size symbols defined statement rest record walked label placed ends
      others ih =>
    cases expands with
    | @cons _ _ _ _ _ forms blocks expanded later =>
      obtain ⟨count, counted, rfl, rfl⟩ := placeInstruction_eq_ok_iff.mp placed
      -- The prediction of the first pass is the length of the block.
      have predicted : count = forms.length := by
        have := Instruction.wordCount_of_expand expanded
        exact Except.ok.inj (counted.symm.trans this)
      obtain ⟨tail, next⟩ := ih later
      rw [predicted] at tail next
      refine ⟨Consecutive.placeForms.append ?_, ?_⟩
      · rwa [length_placeForms]
      · simp only [next, List.flatten_cons, List.length_append, length_placeForms, Nat.cast_add]
        ring

/-! ## Images -/

/-- The instructions that come from a statement: its expansion with labels replaced, one word apart
from the address of the statement on, with its label on the first of them. -/
def IsBlockOf (bits : Int) (symbols : SymbolTable) (index : Nat) (address : Int)
    (statement : Statement Instruction) (block : List PlacedInstruction) : Prop :=
  ∃ forms, statement.body.expand bits (instructionLocation index) = .ok forms ∧ forms ≠ [] ∧
    block.length = forms.length ∧
    ∀ (k : Nat) (p : PlacedInstruction), block[k]? = some p →
      ∃ form resolved, forms[k]? = some form ∧
        Resolution.resolveForm symbols (instructionLocation index) form = .ok resolved ∧
        p =
          { address := address + k * WordSize.bytesIn bits
            instruction := .form resolved
            location := instructionLocation index
            label := if k = 0 then statement.label else none
            expandedFrom := statement.body.pseudoOpcode? }

/-- The first instruction of a block lies at the address of the statement and carries its label. -/
theorem IsBlockOf.head {bits : Int} {symbols : SymbolTable} {index : Nat} {address : Int}
    {statement : Statement Instruction} {block : List PlacedInstruction}
    (isBlock : IsBlockOf bits symbols index address statement block) :
    ∃ p rest, block = p :: rest ∧ p.address = address ∧ p.label = statement.label := by
  obtain ⟨forms, -, nonempty, length, items⟩ := isBlock
  cases block with
  | nil => exact absurd (List.length_eq_zero_iff.mp length.symm) nonempty
  | cons p rest =>
    obtain ⟨form, resolved, -, -, rfl⟩ := items 0 p rfl
    exact ⟨_, rest, rfl, by simp, by simp⟩

/-- Where a program lies in an image. -/
structure Placement (program : Program) (config : Config) (layout : Layout) (image : Image) :
    Prop where
  dataBase : image.dataBase = config.dataBase
  tiles : Layout.Tiles image.dataBase image.data (image.dataBase + image.dataSize)
  elements : image.data.map (fun d => (⟨d.element, d.label⟩ : Statement Element)) = program.data
  sizes : ∀ d ∈ image.data, d.element.size config.wordSize.bits d.location = .ok d.size
  listSizes : ∀ d ∈ image.data, ∀ kind operands, d.element = .list kind operands →
    d.size = kind.width * d.values.length
  instructionBase : image.instructionBase =
    config.instructionBase.getD (image.dataBase + image.dataSize)
  consecutive : ∀ (k : Nat) (p : PlacedInstruction), image.instructions[k]? = some p →
    p.address = image.instructionBase + k * ((config.wordSize.bits : Int) / 8)
  instructionSize : image.instructionSize =
    image.instructions.length * ((config.wordSize.bits : Int) / 8)
  blocks : image.instructions = (List.range program.instructions.length).flatMap image.block
  block : ∀ index statement, program.instructions[index]? = some statement →
    ∃ address, layout.instructionAddresses[index]? = some address ∧
      IsBlockOf config.wordSize.bits layout.symbols index address statement (image.block index)

namespace Assembled

variable {program : Program} {config : Config} {image : Image} {layout : Layout}
  {blocks : List (List PlacedInstruction)}

theorem isBlockOf (assembled : Assembled program config image layout blocks) {index : Nat}
    {statement : Statement Instruction}
    (source : program.instructions[index]? = some statement) :
    ∃ address, layout.instructionAddresses[index]? = some address ∧
      IsBlockOf config.wordSize.bits layout.symbols index address statement
        (image.block index) := by
  obtain ⟨address, forms, atAddress, expanded, related⟩ := assembled.block source
  refine ⟨address, atAddress, forms, expanded, Instruction.expand_ne_nil expanded, ?_, ?_⟩
  · rw [← related.length_eq, length_placeForms]
  · intro k q found
    obtain ⟨p, placed, instruction, resolves, rfl⟩ := Correspondence.getElem?_right related found
    obtain ⟨form, inForms, rfl⟩ := getElem?_placeForms.mp placed
    obtain ⟨resolved, done, rfl⟩ := Resolution.resolveInstruction_form.mp resolves
    exact ⟨form, resolved, inForms, done, rfl⟩

theorem placement (assembled : Assembled program config image layout blocks) :
    Placement program config layout image := by
  obtain ⟨data, code, dataSteps, codeSteps, rfl⟩ := Layout.build_eq_ok_iff.mp assembled.built
  obtain ⟨words, next⟩ := codeSteps.consecutive assembled.expands
  have same := assembled.image_eq
  have dataEnd : image.dataBase + image.dataSize = data.next := by
    rw [same]
    exact add_sub_cancel _ _
  refine ⟨by rw [same]; rfl, ?_, ?_, fun d member => (assembled.data_sizes member).1, ?_, ?_, ?_,
    ?_, assembled.imageBlocks.2, fun index statement source => assembled.isBlockOf source⟩
  · rw [dataEnd, same]
    exact dataSteps.tiles.1
  · rw [assembled.data_eq]
    exact Layout.build_data_labels assembled.built
  · intro d member kind operands element
    obtain ⟨sized, valued⟩ := assembled.data_sizes member
    rw [element] at sized valued
    rw [Element.size_list sized, (Element.valuesIn_eq_ok_iff.mp valued).length_eq]
  · rw [dataEnd, same]
    rfl
  · have base : image.instructionBase = config.instructionBase.getD data.next := by
      rw [same]
      rfl
    rw [base]
    exact words.resolves assembled.resolves
  · rw [← assembled.resolves.length_eq]
    have size : image.instructionSize = code.next - config.instructionBase.getD data.next := by
      rw [same]
      rfl
    rw [size, next, add_sub_cancel_left]
    rfl

end Assembled

/-- The two passes agree on where everything lies. -/
theorem assemble_placement {program : Program} {config : Config} {image : Image}
    (assembled : assemble program config = .ok image) :
    ∃ layout, Layout.build program config = .ok layout ∧
      Placement program config layout image := by
  obtain ⟨layout, blocks, passes⟩ := assemble_eq_ok_iff.mp assembled
  exact ⟨layout, passes.built, passes.placement⟩

theorem assemble_placement_sample :
    ∃ image, assemble .sample .sample = .ok image ∧
      image.instructions.map PlacedInstruction.address =
        [0x20005, 0x20009, 0x2000D, 0x20011, 0x20015, 0x20019, 0x2001D, 0x20021, 0x20025] ∧
      ∃ layout, Layout.build .sample .sample = .ok layout ∧
        Placement .sample .sample layout image :=
  ⟨_, rfl, by decide +kernel, assemble_placement rfl⟩

end Assembler
