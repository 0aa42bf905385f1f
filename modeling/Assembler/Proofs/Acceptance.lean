import Assembler.Proofs.Consistency
import Assembler.Proofs.Reported

/-!
# Acceptance

Which programs from documents can be assembled, and with which error the others end. Three
conditions are looked at in order: there is a layout, the literals of the machine instructions fit
their slots, and the identifiers are labels of the program. The first statement in error is the one
that is reported. The other checks of the passes never fail.
-/

namespace Assembler

/-! ## The conditions -/

namespace Instruction

/-- The literal of a machine instruction. -/
def slot? (bits : Nat) : Instruction → Option Slot
  | .form f => f.slot? bits
  | .foreign _ => none

/-- The label that a statement names. -/
def identifier? : Instruction → Option Text
  | .form f => f.identifier?
  | .foreign _ => none

/-- Whether the literal of a machine instruction fits its slot. -/
def literalFits (bits : Nat) (i : Instruction) : Bool := (i.slot? bits).all Slot.fits

/-- Whether the label that a statement names is among some labels. -/
def identifierIn (labels : List Text) (i : Instruction) : Bool :=
  i.identifier?.all fun name => labels.contains name

theorem literalFits_eq_false_iff {i : Instruction} {bits : Nat} :
    i.literalFits bits = false ↔ ∃ slot, i.slot? bits = some slot ∧ slot.fits = false := by
  unfold literalFits
  cases i.slot? bits <;> simp

theorem identifierIn_eq_false_iff {i : Instruction} {labels : List Text} :
    i.identifierIn labels = false ↔ ∃ name, i.identifier? = some name ∧ name ∉ labels := by
  unfold identifierIn
  cases i.identifier? <;> simp

end Instruction

/-- The literals of the machine instructions of a program fit their slots. -/
def Program.LiteralsFit (program : Program) (bits : Nat) : Prop :=
  ∀ statement ∈ program.instructions, statement.body.literalFits bits = true

/-- The identifiers of a program are labels of it. -/
def Program.IdentifiersDefined (program : Program) : Prop :=
  ∀ statement ∈ program.instructions, statement.body.identifierIn program.labels = true

/-- The first statement of a program whose literal does not fit, and the slot of the literal. -/
def Program.FirstMisfit (program : Program) (bits k : Nat) (slot : Slot) : Prop :=
  ∃ statement, First (fun s => s.body.literalFits bits = true) program.instructions k statement ∧
    statement.body.slot? bits = some slot

/-- The first statement of a program whose identifier is no label of it, and the identifier. -/
def Program.FirstUndefined (program : Program) (k : Nat) (name : Text) : Prop :=
  ∃ statement,
    First (fun s => s.body.identifierIn program.labels = true) program.instructions k statement ∧
      statement.body.identifier? = some name

section Passes

variable {program : Program} {config : Config} {layout : Layout}
  {blocks : List (List PlacedInstruction)}

/-! ## The expansion -/

theorem Layout.build_counted (built : Layout.build program config = .ok layout) {k : Nat}
    {statement : Statement Instruction} (source : program.instructions[k]? = some statement) :
    ∃ count,
      statement.body.wordCount config.wordSize.bits (instructionLocation k) = .ok count := by
  have inside : k < layout.instructionAddresses.length := by
    rw [(Layout.build_lengths built).2]
    exact (List.getElem?_eq_some_iff.mp source).1
  obtain ⟨data, code, -, steps, rfl⟩ := Layout.build_eq_ok_iff.mp built
  obtain ⟨_, size, again, placed, -⟩ :=
    steps.record Layout.placeInstruction_records (List.getElem?_eq_getElem inside)
  rw [source, Option.some.injEq] at again
  subst again
  obtain ⟨count, counted, -, -⟩ := Layout.placeInstruction_eq_ok_iff.mp placed
  rw [Nat.zero_add] at counted
  exact ⟨count, counted⟩

/-- A statement of a program with a layout has no expansion exactly if its literal does not fit. -/
theorem expand_eq_error_iff (read : program.WasRead)
    (built : Layout.build program config = .ok layout) {k : Nat}
    {statement : Statement Instruction} (source : program.instructions[k]? = some statement)
    {e : Error} :
    statement.body.expand config.wordSize.bits (instructionLocation k) = .error e ↔
      ∃ slot, statement.body.slot? config.wordSize.bits = some slot ∧ slot.fits = false ∧
        e = .located (instructionLocation k) (.overflow slot.overflow) := by
  obtain ⟨form, isForm, wasRead⟩ := read.instructions statement (List.mem_of_getElem? source)
  obtain ⟨count, counted⟩ := Layout.build_counted built source
  rw [isForm] at counted ⊢
  exact wasRead.expand_eq_error_iff counted

theorem literalFits_of_expand (read : program.WasRead)
    (built : Layout.build program config = .ok layout) {k : Nat}
    {statement : Statement Instruction} (source : program.instructions[k]? = some statement)
    {forms : List Form}
    (expanded : statement.body.expand config.wordSize.bits (instructionLocation k) = .ok forms) :
    statement.body.literalFits config.wordSize.bits = true := by
  by_contra misfit
  obtain ⟨slot, found, overflows⟩ :=
    Instruction.literalFits_eq_false_iff.mp (Bool.eq_false_iff.mpr misfit)
  have failed := (expand_eq_error_iff read built source).mpr ⟨slot, found, overflows, rfl⟩
  rw [expanded] at failed
  cases failed

/-- An expansion that fails does so at the first literal that does not fit. -/
theorem expandSegment_eq_error (read : program.WasRead)
    (built : Layout.build program config = .ok layout) {e : Error}
    (failed : expandSegment config.wordSize.bits program.instructions
      layout.instructionAddresses = .error e) :
    ∃ k slot, program.FirstMisfit config.wordSize.bits k slot ∧
      e = .located (instructionLocation k) (.overflow slot.overflow) := by
  obtain ⟨k, statement, source, error, before⟩ :=
    expandFrom_eq_error (Layout.build_lengths built).2 failed
  simp only [Nat.zero_add] at error before
  obtain ⟨slot, found, overflows, rfl⟩ := (expand_eq_error_iff read built source).mp error
  refine ⟨k, slot, ⟨statement, ⟨source, ?_, ?_⟩, found⟩, rfl⟩
  · exact Bool.eq_false_iff.mp (Instruction.literalFits_eq_false_iff.mpr ⟨slot, found, overflows⟩)
  · intro j below earlier inProgram
    obtain ⟨forms, expanded⟩ := before j below earlier inProgram
    exact literalFits_of_expand read built inProgram expanded

/-- There is an expansion exactly if all literals fit. -/
theorem expanded_iff (read : program.WasRead)
    (built : Layout.build program config = .ok layout) :
    (∃ blocks, Expanded program config layout blocks) ↔
      program.LiteralsFit config.wordSize.bits := by
  constructor
  · rintro ⟨blocks, passes⟩ statement member
    obtain ⟨k, source⟩ := List.mem_iff_getElem?.mp member
    obtain ⟨address, forms, -, expanded, -⟩ := passes.expands.block source
    rw [Nat.zero_add] at expanded
    exact literalFits_of_expand read built source expanded
  · intro fit
    rcases Outcome.isOk_or_isError (expandSegment config.wordSize.bits program.instructions
      layout.instructionAddresses) with ⟨placed, expanded⟩ | ⟨e, failed⟩
    · obtain ⟨blocks, passes, -⟩ := (expandSegment_eq_ok_iff built).mp expanded
      exact ⟨blocks, passes⟩
    · obtain ⟨k, slot, ⟨statement, first, -⟩, -⟩ := expandSegment_eq_error read built failed
      exact absurd fit first.not_all

/-! ## The resolution -/

namespace Expanded

/-- An instruction of a statement cannot be resolved exactly if the statement names no label of the
program. -/
theorem resolve_eq_error_iff (passes : Expanded program config layout blocks)
    (read : program.WasRead) {k : Nat} {statement : Statement Instruction}
    {block : List PlacedInstruction} (source : program.instructions[k]? = some statement)
    (found : blocks[k]? = some block) {p : PlacedInstruction} (member : p ∈ block) {e : Error} :
    Resolution.resolveInstruction layout.symbols p.location p.instruction = .error e ↔
      ∃ name, statement.body.identifier? = some name ∧ name ∉ program.labels ∧
        e = .located (instructionLocation k) (layout.symbols.undefined name) := by
  obtain ⟨form, isForm, wasRead⟩ := read.instructions statement (List.mem_of_getElem? source)
  obtain ⟨address, forms, -, expanded, same⟩ := passes.expands.block source
  rw [Nat.zero_add] at expanded same
  rw [found, Option.some.injEq] at same
  subst same
  rw [isForm] at expanded ⊢
  obtain ⟨j, atPosition⟩ := List.mem_iff_getElem?.mp member
  obtain ⟨f, inForms, rfl⟩ := getElem?_placeForms.mp atPosition
  obtain ⟨checked, label, -⟩ := wasRead.expand_checked expanded f (List.mem_of_getElem? inForms)
  have held := Layout.build_symbols_hold read.absoluteSizes passes.built
  simp only [Resolution.resolveInstruction, Outcome.map_eq_error_iff,
    checked.resolveForm_eq_error_iff held, label,
    Layout.build_names passes.built, Instruction.identifier?]

/-- The block of a statement is not empty, so a statement whose block is resolved names a label of
the program. -/
theorem identifierIn_of_resolves (passes : Expanded program config layout blocks)
    (read : program.WasRead) {k : Nat} {statement : Statement Instruction}
    {block : List PlacedInstruction} (source : program.instructions[k]? = some statement)
    (found : blocks[k]? = some block)
    (resolves : ∀ p ∈ block, ∃ q, Resolution.Resolves layout.symbols p q) :
    statement.body.identifierIn program.labels = true := by
  by_contra missing
  obtain ⟨name, names, undefined⟩ :=
    Instruction.identifierIn_eq_false_iff.mp (Bool.eq_false_iff.mpr missing)
  have nonempty : block ≠ [] := by
    obtain ⟨address, forms, -, expanded, same⟩ := passes.expands.block source
    rw [found, Option.some.injEq] at same
    rw [same, ← List.length_pos_iff, length_placeForms, List.length_pos_iff]
    exact Instruction.expand_ne_nil expanded
  obtain ⟨p, member⟩ := List.exists_mem_of_ne_nil block nonempty
  have failed := (passes.resolve_eq_error_iff read source found member).mpr
    ⟨name, names, undefined, rfl⟩
  obtain ⟨q, instruction, done, -⟩ := resolves p member
  rw [done] at failed
  cases failed

/-- A resolution that fails does so at the first identifier that is no label of the program. -/
theorem resolve_eq_error (passes : Expanded program config layout blocks)
    (read : program.WasRead) {e : Error}
    (failed : (resolve layout.symbols blocks.flatten).outcome = .error e) :
    ∃ k name, program.FirstUndefined k name ∧
      e = .located (instructionLocation k) (layout.symbols.undefined name) := by
  obtain ⟨m, p, position, error, before⟩ := Assembler.resolve_eq_error failed
  -- The first instruction in error tells the first block in error, and so the first statement.
  obtain ⟨k, block, found, member, earlierBlocks⟩ := Correspondence.getElem?_flatten position
  have inside : k < program.instructions.length := by
    rw [← passes.expands.length_blocks]
    exact (List.getElem?_eq_some_iff.mp found).1
  have source := List.getElem?_eq_getElem inside
  obtain ⟨name, names, undefined, rfl⟩ :=
    (passes.resolve_eq_error_iff read source found member).mp error
  refine ⟨k, name, ⟨_, ⟨source, ?_, ?_⟩, names⟩, rfl⟩
  · exact Bool.eq_false_iff.mp
      (Instruction.identifierIn_eq_false_iff.mpr ⟨name, names, undefined⟩)
  · intro j below earlier inProgram
    have inBlocks : j < blocks.length := by
      rw [passes.expands.length_blocks]
      exact (List.getElem?_eq_some_iff.mp inProgram).1
    have earlierBlock := List.getElem?_eq_getElem inBlocks
    refine passes.identifierIn_of_resolves read inProgram earlierBlock ?_
    intro q inBlock
    obtain ⟨n, less, atPosition⟩ := earlierBlocks j below _ earlierBlock q inBlock
    exact before n less q atPosition

/-- All labels can be replaced exactly if all identifiers are labels of the program. -/
theorem resolves_iff (passes : Expanded program config layout blocks) (read : program.WasRead) :
    (∃ instructions,
        List.Forall₂ (Resolution.Resolves layout.symbols) blocks.flatten instructions) ↔
      program.IdentifiersDefined := by
  constructor
  · rintro ⟨instructions, resolves⟩ statement member
    obtain ⟨k, source⟩ := List.mem_iff_getElem?.mp member
    obtain ⟨address, forms, -, -, found⟩ := passes.expands.block source
    refine passes.identifierIn_of_resolves read source found ?_
    intro p inBlock
    obtain ⟨q, -, done⟩ := Correspondence.mem_left resolves
      (List.mem_flatten_of_mem (List.mem_of_getElem? found) inBlock)
    exact ⟨q, done⟩
  · intro defined
    rcases Outcome.isOk_or_isError (resolve layout.symbols blocks.flatten).outcome with
      ⟨instructions, resolved⟩ | ⟨e, failed⟩
    · exact ⟨instructions, resolve_eq_ok_iff.mp resolved⟩
    · obtain ⟨k, name, ⟨statement, first, -⟩, -⟩ := passes.resolve_eq_error read failed
      exact absurd defined first.not_all

end Expanded

end Passes

/-! ## The whole assembly -/

/-- How an assembly ends. -/
structure Acceptance (program : Program) (config : Config) : Prop where
  accepts : (∃ image, assemble program config = .ok image) ↔
    (∃ layout, Layout.build program config = .ok layout) ∧
      program.LiteralsFit config.wordSize.bits ∧ program.IdentifiersDefined
  layoutError : ∀ stop, Layout.build program config = .error stop →
    assemble program config = .error stop.error
  literalError : ∀ layout k slot, Layout.build program config = .ok layout →
    program.FirstMisfit config.wordSize.bits k slot →
    assemble program config = .error (.located (instructionLocation k) (.overflow slot.overflow))
  identifierError : ∀ layout k name, Layout.build program config = .ok layout →
    program.LiteralsFit config.wordSize.bits → program.FirstUndefined k name →
    assemble program config =
      .error (.located (instructionLocation k) (.undefined name (layout.symbols.similar name)))
  reported : ∀ e, assemble program config = .error e → e.Reported
  resolverError : ∀ layout placed e, Layout.build program config = .ok layout →
    expandSegment config.wordSize.bits program.instructions layout.instructionAddresses =
      .ok placed →
    (resolve layout.symbols placed).outcome = .error e →
    ∃ (k : Nat) (name : Text),
      e = .located (instructionLocation k) (.undefined name (layout.symbols.similar name))
  imageBuilt : ∀ layout placed instructions warnings, Layout.build program config = .ok layout →
    expandSegment config.wordSize.bits program.instructions layout.instructionAddresses =
      .ok placed →
    (resolve layout.symbols placed).outcome = .ok instructions →
    ∃ image, Image.build { layout with symbols := (resolve layout.symbols placed).symbols }
      instructions warnings = .ok image

namespace Program.WasRead

variable {program : Program} {config : Config} {layout : Layout}

theorem accepts (read : program.WasRead) :
    (∃ image, assemble program config = .ok image) ↔
      (∃ layout, Layout.build program config = .ok layout) ∧
        program.LiteralsFit config.wordSize.bits ∧ program.IdentifiersDefined := by
  simp only [assemble_eq_ok_iff]
  constructor
  · rintro ⟨image, layout, blocks, passes, resolves, -⟩
    exact ⟨⟨layout, passes.built⟩, (expanded_iff read passes.built).mp ⟨blocks, passes⟩,
      (passes.resolves_iff read).mp ⟨_, resolves⟩⟩
  · rintro ⟨⟨layout, built⟩, fit, defined⟩
    obtain ⟨blocks, passes⟩ := (expanded_iff read built).mpr fit
    obtain ⟨instructions, resolves⟩ := (passes.resolves_iff read).mpr defined
    obtain ⟨image, checked⟩ :=
      passes.image resolves (resolve layout.symbols blocks.flatten).warnings
    have same := Image.instructions_of_build checked
    subst same
    exact ⟨image, layout, blocks, passes, resolves, checked⟩

/-- An assembly fails where the conditions say, in their order. -/
theorem fails (read : program.WasRead) {e : Error}
    (failed : assemble program config = .error e) :
    (∃ stop, Layout.build program config = .error stop ∧ e = stop.error) ∨
      ∃ layout, Layout.build program config = .ok layout ∧
        ((∃ k slot, program.FirstMisfit config.wordSize.bits k slot ∧
            e = .located (instructionLocation k) (.overflow slot.overflow)) ∨
          program.LiteralsFit config.wordSize.bits ∧
            ∃ k name, program.FirstUndefined k name ∧
              e = .located (instructionLocation k) (layout.symbols.undefined name)) := by
  rcases assemble_eq_error_iff.mp failed with stopped | ⟨layout, built, expansion⟩
  · exact .inl stopped
  · refine .inr ⟨layout, built, ?_⟩
    rcases expansion with misfit | ⟨placed, expanded, resolution⟩
    · exact .inl (expandSegment_eq_error read built misfit)
    · obtain ⟨blocks, passes, rfl⟩ := (expandSegment_eq_ok_iff built).mp expanded
      refine .inr ⟨(expanded_iff read built).mp ⟨blocks, passes⟩, ?_⟩
      rcases resolution with missing | ⟨instructions, resolved, refused⟩
      · exact passes.resolve_eq_error read missing
      · obtain ⟨image, checked⟩ := passes.image (resolve_eq_ok_iff.mp resolved)
          (resolve layout.symbols blocks.flatten).warnings
        rw [checked] at refused
        cases refused

theorem literalError (read : program.WasRead) (built : Layout.build program config = .ok layout)
    {k : Nat} {slot : Slot} (first : program.FirstMisfit config.wordSize.bits k slot) :
    assemble program config =
      .error (.located (instructionLocation k) (.overflow slot.overflow)) := by
  obtain ⟨statement, first, found⟩ := first
  rcases Outcome.isOk_or_isError (assemble program config) with done | ⟨e, failed⟩
  · exact absurd (read.accepts.mp done).2.1 first.not_all
  · rw [failed]
    rcases read.fails failed with
      ⟨stop, stopped, -⟩ | ⟨_, -, ⟨j, other, ⟨_, again, same⟩, rfl⟩ | ⟨fit, -⟩⟩
    · rw [built] at stopped
      cases stopped
    · obtain ⟨rfl, rfl⟩ := again.unique first
      rw [Option.some.inj (found.symm.trans same)]
    · exact absurd fit first.not_all

theorem identifierError (read : program.WasRead)
    (built : Layout.build program config = .ok layout)
    (fit : program.LiteralsFit config.wordSize.bits) {k : Nat} {name : Text}
    (first : program.FirstUndefined k name) :
    assemble program config =
      .error (.located (instructionLocation k) (layout.symbols.undefined name)) := by
  obtain ⟨statement, first, found⟩ := first
  rcases Outcome.isOk_or_isError (assemble program config) with done | ⟨e, failed⟩
  · exact absurd (read.accepts.mp done).2.2 first.not_all
  · rw [failed]
    rcases read.fails failed with ⟨stop, stopped, -⟩ |
      ⟨_, again, ⟨_, _, ⟨_, misfit, -⟩, -⟩ | ⟨-, j, other, ⟨_, second, same⟩, rfl⟩⟩
    · rw [built] at stopped
      cases stopped
    · exact absurd fit misfit.not_all
    · obtain ⟨rfl, rfl⟩ := second.unique first
      rw [built, Except.ok.injEq] at again
      rw [again, Option.some.inj (found.symm.trans same)]

theorem reported (read : program.WasRead) {e : Error}
    (failed : assemble program config = .error e) : e.Reported := by
  rcases read.fails failed with
    ⟨stop, stopped, rfl⟩ | ⟨layout, -, ⟨k, slot, -, rfl⟩ | ⟨-, k, name, -, rfl⟩⟩
  · exact Layout.build_reported read stopped
  · exact .overflow _
  · exact .undefined layout.symbols name

end Program.WasRead

/-- A program from a document is assembled exactly if it has a layout, its literals fit and its
identifiers are labels. Otherwise the first of these conditions that fails decides the error, and
the first statement that violates it is reported. -/
theorem assemble_acceptance {document : Json} {program : Program}
    (read : Program.ofJson document = .ok program) (config : Config) :
    Acceptance program config := by
  have wasRead := Program.ofJson_wasRead read
  refine ⟨wasRead.accepts, ?_, ?_, ?_, fun e => wasRead.reported, ?_, ?_⟩
  · intro stop stopped
    exact assemble_eq_error_iff.mpr (.inl ⟨stop, stopped, rfl⟩)
  · intro layout k slot built first
    exact wasRead.literalError built first
  · intro layout k name built fit first
    exact wasRead.identifierError built fit first
  · intro layout placed e built expanded missing
    obtain ⟨blocks, passes, rfl⟩ := (expandSegment_eq_ok_iff built).mp expanded
    obtain ⟨k, name, -, error⟩ := passes.resolve_eq_error wasRead missing
    exact ⟨k, name, error⟩
  · intro layout placed instructions warnings built expanded resolved
    obtain ⟨blocks, passes, rfl⟩ := (expandSegment_eq_ok_iff built).mp expanded
    exact passes.image (resolve_eq_ok_iff.mp resolved) warnings

/-- A document whose first instruction names no label and whose second has a literal that does not
fit. -/
def Json.misfit : Json :=
  .object
    [("instructions", .array
      [.object [("mnemonic", .string "jmp"),
          ("operands", .array [.object [("identifier", .string "nowhere")]])],
        .object [("mnemonic", .string "ADDI"),
          ("operands", .array
            [.object [("register", .string "$V0")], .object [("register", .string "v0")],
              .object [("literal", .int 32768)]])]])]

/-- Literals come before identifiers, although here the identifier stands first. -/
theorem assemble_acceptance_misfit :
    ∃ program, Program.ofJson .misfit = .ok program ∧ Acceptance program .standard ∧
      assemble program .standard =
        .error (.located (instructionLocation 1)
          (.overflow ⟨some "32768", 16, .signed, ⟨-32768, 32767⟩⟩)) := by
  have read : Program.ofJson .misfit = .ok
      { instructions :=
          [⟨.form (.jump .jmp (.label "nowhere")), none⟩,
            ⟨.form (.immSigned .addi .v0 .v0 (.numeral ⟨.dec, 32768, false, "32768"⟩)),
              none⟩] } :=
    Outcome.toOption_eq_some_iff.mp (by decide +kernel)
  have acceptance := assemble_acceptance read .standard
  exact ⟨_, read, acceptance,
    acceptance.literalError _ 1 _ rfl ⟨_, .tail rfl (.head (by decide)), rfl⟩⟩

end Assembler
