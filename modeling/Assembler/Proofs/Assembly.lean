import Assembler.Assembly
import Assembler.Proofs.Correspondence
import Assembler.Proofs.Image
import Assembler.Proofs.Layout

/-!
# Assemblies that succeed

`Expanded` and `Assembled` name what the passes hand on: the layout, the blocks of the instruction
statements before labels are replaced, and the image. The instructions of the image fall into the
same blocks, which their locations tell.
-/

namespace Assembler

/-- The instructions of an image that come from one statement. -/
def Image.block (image : Image) (index : Nat) : List PlacedInstruction :=
  blockOf image.instructions index

/-- A program with a layout whose statements are expanded. -/
structure Expanded (program : Program) (config : Config) (layout : Layout)
    (blocks : List (List PlacedInstruction)) : Prop where
  built : Layout.build program config = .ok layout
  expands : Expands config.wordSize.bits 0 program.instructions layout.instructionAddresses blocks

/-- An assembly that succeeds, pass by pass. -/
structure Assembled (program : Program) (config : Config) (image : Image) (layout : Layout)
    (blocks : List (List PlacedInstruction)) : Prop
    extends Expanded program config layout blocks where
  resolves : List.Forall₂ (Resolution.Resolves layout.symbols) blocks.flatten image.instructions
  checked : Image.build { layout with symbols := (resolve layout.symbols blocks.flatten).symbols }
    image.instructions (resolve layout.symbols blocks.flatten).warnings = .ok image

variable {program : Program} {config : Config} {image : Image} {layout : Layout}
  {blocks : List (List PlacedInstruction)}

theorem expandSegment_eq_ok_iff (built : Layout.build program config = .ok layout)
    {placed : List PlacedInstruction} :
    expandSegment config.wordSize.bits program.instructions layout.instructionAddresses =
        .ok placed ↔
      ∃ blocks, Expanded program config layout blocks ∧ placed = blocks.flatten := by
  rw [expandSegment, expandFrom_eq_ok_iff (Layout.build_lengths built).2]
  constructor
  · rintro ⟨blocks, expands, same⟩
    exact ⟨blocks, ⟨built, expands⟩, same⟩
  · rintro ⟨blocks, expanded, same⟩
    exact ⟨blocks, expanded.expands, same⟩

/-- The image is built from the instructions that the second pass leaves. -/
theorem Image.instructions_of_build {instructions : List PlacedInstruction}
    {warnings : List Text} (built : Image.build layout instructions warnings = .ok image) :
    image.instructions = instructions := by
  obtain ⟨-, -, -, rfl⟩ := Image.build_eq_ok_iff.mp built
  rfl

/-- An assembly succeeds if all its passes do. -/
theorem assemble_eq_ok_iff :
    assemble program config = .ok image ↔
      ∃ layout blocks, Assembled program config image layout blocks := by
  constructor
  · intro assembled
    unfold assemble at assembled
    split at assembled
    · cases assembled
    · rename_i layout built
      split at assembled
      · cases assembled
      · rename_i placed expanded
        obtain ⟨blocks, passes, rfl⟩ := (expandSegment_eq_ok_iff built).mp expanded
        simp only at assembled
        split at assembled
        · cases assembled
        · rename_i instructions resolved
          have same := Image.instructions_of_build assembled
          subst same
          exact ⟨layout, blocks, passes, resolve_eq_ok_iff.mp resolved, assembled⟩
  · rintro ⟨layout, blocks, passes, resolves, checked⟩
    have expanded := (expandSegment_eq_ok_iff passes.built).mpr ⟨blocks, passes, rfl⟩
    simp only [assemble, passes.built, expanded, resolve_eq_ok_iff.mpr resolves, checked]

/-- The pass in which an assembly fails. -/
theorem assemble_eq_error_iff {e : Error} :
    assemble program config = .error e ↔
      (∃ stop, Layout.build program config = .error stop ∧ e = stop.error) ∨
        ∃ layout, Layout.build program config = .ok layout ∧
          (expandSegment config.wordSize.bits program.instructions layout.instructionAddresses =
              .error e ∨
            ∃ placed,
              expandSegment config.wordSize.bits program.instructions
                layout.instructionAddresses = .ok placed ∧
              ((resolve layout.symbols placed).outcome = .error e ∨
                ∃ instructions, (resolve layout.symbols placed).outcome = .ok instructions ∧
                  Image.build { layout with symbols := (resolve layout.symbols placed).symbols }
                    instructions (resolve layout.symbols placed).warnings = .error e)) := by
  unfold assemble
  cases Layout.build program config with
  | error stop => simp [eq_comm]
  | ok layout =>
    cases expanded : expandSegment config.wordSize.bits program.instructions
        layout.instructionAddresses with
    | error found => simp [expanded]
    | ok placed =>
      cases resolved : (resolve layout.symbols placed).outcome with
      | error found => simp [expanded, resolved]
      | ok instructions => simp [expanded, resolved]

namespace Assembled

/-- What the image is made of. -/
theorem image_eq (assembled : Assembled program config image layout blocks) :
    image = Image.ofLayout
      { layout with symbols := (resolve layout.symbols blocks.flatten).symbols }
      image.instructions (resolve layout.symbols blocks.flatten).warnings :=
  (Image.build_eq_ok_iff.mp assembled.checked).2.2.2

theorem data_eq (assembled : Assembled program config image layout blocks) :
    image.data = layout.data := by
  rw [assembled.image_eq]
  rfl

/-- The data elements of an image, each with its own size and values. -/
theorem data_sizes (assembled : Assembled program config image layout blocks) {d : PlacedData}
    (member : d ∈ image.data) :
    d.element.size config.wordSize.bits d.location = .ok d.size ∧
      d.element.values d.location = .ok d.values := by
  obtain ⟨data, code, steps, -, rfl⟩ := Layout.build_eq_ok_iff.mp assembled.built
  rw [assembled.data_eq] at member
  obtain ⟨k, found⟩ := List.mem_iff_getElem?.mp member
  obtain ⟨statement, size, -, placed, -⟩ := steps.record Layout.placeData_records found
  obtain ⟨values, sized, valued, same⟩ := Layout.placeData_eq_ok_iff.mp placed
  rw [same]
  exact ⟨sized, valued⟩

theorem symbols_eq (assembled : Assembled program config image layout blocks) :
    image.symbols.symbols = layout.symbols.symbols := by
  rw [assembled.image_eq]
  exact (resolve_frame layout.symbols blocks.flatten).1

theorem names_eq (assembled : Assembled program config image layout blocks) :
    image.symbols.names = program.labels := by
  rw [SymbolTable.names, assembled.symbols_eq]
  exact Layout.build_names assembled.built

/-- The instructions of the image fall into one block for each statement, each of which comes from
the block before labels were replaced. -/
theorem imageBlocks (assembled : Assembled program config image layout blocks) :
    List.Forall₂ (List.Forall₂ (Resolution.Resolves layout.symbols)) blocks
        ((List.range program.instructions.length).map image.block) ∧
      image.instructions = (List.range program.instructions.length).flatMap image.block := by
  obtain ⟨parts, related, flat⟩ := Correspondence.flatten_left assembled.resolves
  have located : Located 0 parts := by
    intro k part found q member
    obtain ⟨block, source, pair⟩ := Correspondence.getElem?_right related found
    obtain ⟨p, inside, instruction, -, rfl⟩ := Correspondence.mem_right pair member
    exact assembled.expands.located k block source p inside
  have length : parts.length = program.instructions.length := by
    rw [← related.length_eq, assembled.expands.length_blocks]
  have own : (List.range program.instructions.length).map image.block = parts := by
    rw [← length, ← located.map_blockOf, ← flat]
    simp [Image.block]
  rw [own, List.flatMap_def, own]
  exact ⟨related, flat⟩

/-- The block of a statement: its expansion at its address, with labels replaced. -/
theorem block (assembled : Assembled program config image layout blocks) {k : Nat}
    {statement : Statement Instruction} (source : program.instructions[k]? = some statement) :
    ∃ address forms, layout.instructionAddresses[k]? = some address ∧
      statement.body.expand config.wordSize.bits (instructionLocation k) = .ok forms ∧
      List.Forall₂ (Resolution.Resolves layout.symbols)
        (placeForms config.wordSize.bits (instructionLocation k) statement.body.pseudoOpcode?
          address statement.label forms)
        (image.block k) := by
  have inside := (List.getElem?_eq_some_iff.mp source).1
  obtain ⟨address, forms, atAddress, expanded, found⟩ := assembled.expands.block source
  rw [Nat.zero_add] at expanded found
  obtain ⟨part, partner, pair⟩ := Correspondence.getElem?_left assembled.imageBlocks.1 found
  rw [List.getElem?_map, List.getElem?_range inside, Option.map_some, Option.some.injEq] at partner
  subst partner
  exact ⟨address, forms, atAddress, expanded, pair⟩

/-- The forms in the block of a statement. -/
theorem forms (assembled : Assembled program config image layout blocks) {k : Nat}
    {statement : Statement Instruction} (source : program.instructions[k]? = some statement) :
    ∃ form expanded resolved, statement.body = .form form ∧
      form.expand config.wordSize.bits (instructionLocation k) = .ok expanded ∧
      Resolution.ResolvesForms layout.symbols (instructionLocation k) expanded resolved ∧
      (image.block k).map PlacedInstruction.instruction = resolved.map .form := by
  obtain ⟨address, expanded, -, expands, related⟩ := assembled.block source
  obtain ⟨form, isForm, expands⟩ := Instruction.expand_eq_ok_iff.mp expands
  obtain ⟨resolved, resolves, same⟩ := Resolution.resolvesForms_of_placeForms related
  exact ⟨form, expanded, resolved, isForm, expands, resolves, same⟩

end Assembled

/-! ## A program to apply the theorems to -/

/-- A program with references forward, backward and into the data. Before the label `end` stand
three statements that become two words. -/
def Program.sample : Program :=
  { data :=
      [⟨.block (.numeral ⟨.dec, 3, false, "3"⟩), some "table"⟩,
        ⟨.list .short [.numeral ⟨.dec, 1, true, "-1"⟩, .numeral ⟨.hex, 0xFFFF, false, "0xFFFF"⟩],
          none⟩]
    instructions :=
      [⟨.form (.jump .jmp (.label "end")), some "start"⟩,
        ⟨.form (.loadAddress .lda .a0 (.label "table")), none⟩,
        ⟨.form (.loadWord .v0 (.numeral ⟨.hex, 0x12345678, false, "0x12345678"⟩)), none⟩,
        ⟨.form (.push .v0), none⟩,
        ⟨.form (.branch .bez .v0 (.label "start")), none⟩,
        ⟨.form (.jump .jal (.fixed (.numeral ⟨.hex, 0x40, false, "0x40"⟩))), some "end"⟩] }

/-- The data of the program cross a multiple of 0x10000, the instructions follow them. -/
def Config.sample : Config := { Config.standard with
  dataBase := 0x1FFFE
  dataBase_holds := by decide }

end Assembler
