import Assembler.Proofs.Acceptance
import Assembler.Proofs.Displacement

/-!
# Relocation

An image depends on the bases of its segments in one way only. Of two images of one program for
the same word size, the second is the first with each segment moved: addresses and symbols move with
their segment, and so does every address that comes from a label, whole in a jump or in two halves
in an address load. Nothing else changes but the warning about segments that overlap.

If the instructions follow the data, a program that can be assembled at some data base can be
assembled at every lower one.
-/

namespace Assembler

/-- An instruction, moved by a distance; its operands stay. -/
def PlacedInstruction.moved (distance : Int) (p : PlacedInstruction) : PlacedInstruction :=
  { p with address := p.address + distance }

/-! ## Expansion -/

theorem placeForms_moved {bits distance address : Int} {location : Location}
    {expandedFrom : Option Opcode} {label : Option Text} {forms : List Form} :
    placeForms bits location expandedFrom (address + distance) label forms =
      (placeForms bits location expandedFrom address label forms).map
        (PlacedInstruction.moved distance) := by
  induction forms generalizing address label with
  | nil => rfl
  | cons form rest ih =>
    have next : address + distance + WordSize.bytesIn bits =
        address + WordSize.bytesIn bits + distance := by omega
    rw [placeForms, next, ih]
    rfl

/-- The expansion of a segment moves with its addresses. -/
theorem Expands.moved {bits distance : Int} {index : Nat}
    {statements : List (Statement Instruction)} {addresses : List Int}
    {blocks others : List (List PlacedInstruction)}
    (steps : Expands bits index statements addresses blocks)
    (again : Expands bits index statements (addresses.map (· + distance)) others) :
    others = blocks.map (List.map (PlacedInstruction.moved distance)) := by
  induction steps generalizing others with
  | nil =>
    cases again
    rfl
  | @cons index address addresses statement rest forms blocks expanded later ih =>
    rw [List.map_cons] at again
    cases again with
    | @cons _ _ _ _ _ otherForms _ otherExpanded otherLater =>
      have same : otherForms = forms := by
        rw [expanded] at otherExpanded
        exact (Except.ok.inj otherExpanded).symm
      rw [same, placeForms_moved, ih otherLater, List.map_cons]

/-! ## Resolution -/

namespace Resolution

variable {symbols others : SymbolTable} {move : Segment → Int} {distance : Int}
  {location : Option Location}

theorem noteUse_moved (p : PlacedInstruction) :
    noteUse (symbols.moved move) (p.moved distance) = (noteUse symbols p).moved move := by
  unfold noteUse
  rw [show (p.moved distance).instruction = p.instruction from rfl]
  cases p.instruction.label? <;> rfl

/-- A warning speaks of segments and locations, not of addresses. -/
theorem mismatch?_moved (p : PlacedInstruction) :
    mismatch? (symbols.moved move) (p.moved distance) = mismatch? symbols p := by
  obtain ⟨address, instruction, place, label, expandedFrom⟩ := p
  simp only [mismatch?, PlacedInstruction.moved, SymbolTable.find?_moved]
  split
  · rename_i name op
    cases symbols.find? name with
    | none => rfl
    | some s => cases expectedSegment (some op) <;> rfl
  · rfl

/-- Two passes over the same instructions at two places leave the same warnings and, but for the
addresses, the same table. -/
theorem resolve_moved {placed resolved again : List PlacedInstruction}
    (first : (resolve symbols placed).outcome = .ok resolved)
    (second : (resolve (symbols.moved move)
      (placed.map (PlacedInstruction.moved distance))).outcome = .ok again) :
    (resolve (symbols.moved move) (placed.map (PlacedInstruction.moved distance))).symbols =
        (resolve symbols placed).symbols.moved move ∧
      (resolve (symbols.moved move) (placed.map (PlacedInstruction.moved distance))).warnings =
        (resolve symbols placed).warnings := by
  induction placed generalizing symbols resolved again with
  | nil => exact ⟨rfl, rfl⟩
  | cons p rest ih =>
    simp only [List.map_cons, resolve, noteUse_moved, mismatch?_moved] at first second ⊢
    split at first
    · cases first
    · rename_i instruction done
      split at second
      · cases second
      · rename_i otherInstruction otherDone
        obtain ⟨later, firstLater, -⟩ := Outcome.map_eq_ok_iff.mp first
        obtain ⟨otherLater, secondLater, -⟩ := Outcome.map_eq_ok_iff.mp second
        obtain ⟨tables, warnings⟩ := ih firstLater secondLater
        exact ⟨tables, by rw [warnings]⟩

/-- An instruction that names no label does not look at the table. -/
theorem resolveForm_of_unlabelled {form : Form} (unlabelled : form.label? = none) :
    resolveForm symbols location form = resolveForm others location form := by
  cases form with
  | branch op rs target | jump op target =>
    cases target with
    | label name => cases unlabelled
    | fixed value => cases value <;> rfl
    | _ => rfl
  | loadImm op rd o | setImm op rd o =>
    cases o with
    | label name => cases unlabelled
    | _ => rfl
  | _ => rfl

theorem ResolvesForms.eq_of_unlabelled {forms resolved again : List Form}
    (first : ResolvesForms symbols location forms resolved)
    (second : ResolvesForms others location forms again)
    (unlabelled : ∀ f ∈ forms, f.label? = none) : again = resolved := by
  induction first generalizing again with
  | nil =>
    cases second
    rfl
  | @cons form final forms resolved done later ih =>
    obtain ⟨otherFinal, otherResolved, otherDone, otherLater, rfl⟩ :=
      List.forall₂_cons_left_iff.mp second
    obtain ⟨own, rest⟩ := List.forall_mem_cons.mp unlabelled
    have anyTable : resolveForm others location form = resolveForm symbols location form :=
      resolveForm_of_unlabelled own
    have same : otherFinal = final := by
      rw [anyTable, done] at otherDone
      exact (Except.ok.inj otherDone).symm
    rw [same, ih otherLater rest]

end Resolution

/-! ## Statements -/

/-- The segment whose statements carry a label. -/
def Program.segmentOf? (program : Program) (name : Text) : Option Segment :=
  if name ∈ program.data.filterMap Statement.label then some .data
  else if name ∈ program.instructions.filterMap Statement.label then some .instructions
  else none

/-- The table knows the segment of each label. -/
theorem Layout.build_segmentOf? {program : Program} {config : Config} {layout : Layout}
    (built : Layout.build program config = .ok layout) {name : Text} {s : Symbol}
    (found : layout.symbols.find? name = some s) :
    program.segmentOf? name = some s.segment := by
  obtain ⟨member, named⟩ := SymbolTable.mem_of_find? found
  rw [build_symbols built, List.mem_append, mem_labelSymbols, mem_labelSymbols] at member
  rcases member with ⟨k, statement, source, -, label, inSegment, -⟩ |
      ⟨k, statement, source, -, label, inSegment, -⟩
  · have inData : name ∈ program.data.filterMap Statement.label :=
      List.mem_filterMap.mpr ⟨statement, List.mem_of_getElem? source, named ▸ label⟩
    rw [Program.segmentOf?, if_pos inData, inSegment]
  · have inCode : name ∈ program.instructions.filterMap Statement.label :=
      List.mem_filterMap.mpr ⟨statement, List.mem_of_getElem? source, named ▸ label⟩
    have labels : program.labels.Nodup := by
      rw [← build_names built]
      exact build_distinct built
    have notInData : name ∉ program.data.filterMap Statement.label := by
      intro inData
      exact (List.nodup_append.mp labels).2.2 name inData name inCode rfl
    rw [Program.segmentOf?, if_neg notInData, if_pos inCode, inSegment]

/-- What becomes of the instructions of a statement when the segments move: an address that comes
from a label moves with the segment of the label, and nothing else changes. -/
def Relocates (program : Program) (move : Segment → Int) (form : Form)
    (block other : List Form) : Prop :=
  match form with
  | .branch op rs (.label name) =>
    ∃ segment address, program.segmentOf? name = some segment ∧
      block = [.branch op rs (.address address)] ∧
      other = [.branch op rs (.address (address + move segment))]
  | .jump op (.label name) =>
    ∃ segment address, program.segmentOf? name = some segment ∧
      block = [.jump op (.address address)] ∧
      other = [.jump op (.address (address + move segment))]
  | .loadAddress _ rd (.label name) =>
    ∃ segment low high otherLow otherHigh, program.segmentOf? name = some segment ∧
      block = [.loadImm .li rd (.address low), .setImm .lhi rd (.address high)] ∧
      other = [.loadImm .li rd (.address otherLow), .setImm .lhi rd (.address otherHigh)] ∧
      (0 ≤ otherLow ∧ otherLow ≤ 0xFFFF) ∧
      Bits.join otherLow otherHigh 16 = Bits.join low high 16 + move segment
  | _ => other = block

namespace Form.WasRead

open Resolution

variable {program : Program} {move : Segment → Int} {symbols : SymbolTable} {form : Form}
  {forms resolved again : List Form} {w : WordSize} {location : Option Location}

theorem eq_of_unlabelled (read : form.WasRead)
    (expanded : form.expand w.bits location = .ok forms)
    (first : ResolvesForms symbols location forms resolved)
    (second : ResolvesForms (symbols.moved move) location forms again)
    (unlabelled : form.identifier? = none) : again = resolved := by
  apply first.eq_of_unlabelled second
  intro f member
  rw [(read.expand_checked expanded f member).2.1, unlabelled]

/-- A jump target that is a label moves with the label. -/
theorem target_moved {name : Text} {target other : Operand}
    (segments : ∀ {name s}, symbols.find? name = some s →
      program.segmentOf? name = some s.segment)
    (first : resolveTarget symbols location (.label name) = .ok target)
    (second : resolveTarget (symbols.moved move) location (.label name) = .ok other) :
    ∃ segment address, program.segmentOf? name = some segment ∧
      target = .address address ∧ other = .address (address + move segment) := by
  obtain ⟨s, found, rfl⟩ := resolveTarget_label.mp first
  obtain ⟨t, again, rfl⟩ := resolveTarget_label.mp second
  rw [SymbolTable.find?_moved, found, Option.map_some, Option.some.injEq] at again
  subst again
  exact ⟨s.segment, s.address, segments found, rfl, rfl⟩

/-- The two halves of an address join to one that moves with its label. -/
theorem halves_moved {name : Text} {low high otherLow otherHigh : Operand}
    (segments : ∀ {name s}, symbols.find? name = some s →
      program.segmentOf? name = some s.segment)
    (lower : resolveLow symbols location (.label name) = .ok low)
    (upper : resolveHigh symbols location (.label name) = .ok high)
    (otherLower : resolveLow (symbols.moved move) location (.label name) = .ok otherLow)
    (otherUpper : resolveHigh (symbols.moved move) location (.label name) = .ok otherHigh) :
    ∃ segment l h l' h', program.segmentOf? name = some segment ∧
      low = .address l ∧ high = .address h ∧ otherLow = .address l' ∧ otherHigh = .address h' ∧
      (0 ≤ l' ∧ l' ≤ 0xFFFF) ∧ Bits.join l' h' 16 = Bits.join l h 16 + move segment := by
  obtain ⟨s, found, rfl⟩ := resolveLow_label.mp lower
  obtain ⟨_, again, -, rfl⟩ := resolveHigh_label.mp upper
  obtain ⟨t, otherFound, rfl⟩ := resolveLow_label.mp otherLower
  obtain ⟨_, otherAgain, -, rfl⟩ := resolveHigh_label.mp otherUpper
  rw [SymbolTable.find?_moved, found, Option.map_some, Option.some.injEq] at otherFound otherAgain
  rw [found, Option.some.injEq] at again
  subst again otherFound otherAgain
  have range := Bits.split_low_range (s.moved move).address Bits.immediateWidth
  have patterns : Bits.patterns Bits.immediateWidth = 0x10000 := by decide
  refine ⟨s.segment, _, _, _, _, segments found, rfl, rfl, rfl, rfl, by omega, ?_⟩
  rw [show (16 : Nat) = Bits.immediateWidth from rfl, Bits.join_split, Bits.join_split]
  rfl

/-- The instructions of a statement in two images of a program. -/
theorem relocates (read : form.WasRead) (expanded : form.expand w.bits location = .ok forms)
    (segments : ∀ {name s}, symbols.find? name = some s →
      program.segmentOf? name = some s.segment)
    (first : ResolvesForms symbols location forms resolved)
    (second : ResolvesForms (symbols.moved move) location forms again) :
    Relocates program move form resolved again := by
  have operands := read.operands
  cases form with
  | branch | jump =>
    rcases operands with ⟨name, rfl⟩ | ⟨value, rfl, -⟩
    · obtain ⟨_, _, check, done, rfl⟩ := first.of_canonical rfl expanded
      obtain ⟨_, _, otherCheck, otherDone, rfl⟩ := second.of_canonical rfl expanded
      cases check
      cases otherCheck
      obtain ⟨target, resolves, rfl⟩ := Outcome.map_eq_ok_iff.mp done
      obtain ⟨other, otherResolves, rfl⟩ := Outcome.map_eq_ok_iff.mp otherDone
      obtain ⟨segment, address, inSegment, rfl, rfl⟩ :=
        target_moved segments resolves otherResolves
      exact ⟨segment, address, inSegment, rfl, rfl⟩
    · exact read.eq_of_unlabelled expanded first second rfl
  | loadAddress op rd target =>
    obtain ⟨name, rfl⟩ := operands
    cases expanded
    obtain ⟨_, _, firstLow, firstRest, rfl⟩ := List.forall₂_cons_left_iff.mp first
    obtain ⟨_, _, firstHigh, firstNone, rfl⟩ := List.forall₂_cons_left_iff.mp firstRest
    obtain ⟨_, _, secondLow, secondRest, rfl⟩ := List.forall₂_cons_left_iff.mp second
    obtain ⟨_, _, secondHigh, secondNone, rfl⟩ := List.forall₂_cons_left_iff.mp secondRest
    cases firstNone
    cases secondNone
    obtain ⟨low, lower, rfl⟩ := Outcome.map_eq_ok_iff.mp firstLow
    obtain ⟨high, upper, rfl⟩ := Outcome.map_eq_ok_iff.mp firstHigh
    obtain ⟨otherLow, otherLower, rfl⟩ := Outcome.map_eq_ok_iff.mp secondLow
    obtain ⟨otherHigh, otherUpper, rfl⟩ := Outcome.map_eq_ok_iff.mp secondHigh
    obtain ⟨segment, l, h, l', h', inSegment, rfl, rfl, rfl, rfl, range, joined⟩ :=
      halves_moved segments lower upper otherLower otherUpper
    exact ⟨segment, l, h, l', h', inSegment, rfl, rfl, range, joined⟩
  | _ => exact read.eq_of_unlabelled expanded first second rfl

end Form.WasRead

/-! ## Images -/

/-- How far each segment of an image lies from that of another. -/
def Image.displacement (image other : Image) : Segment → Int
  | .data => other.dataBase - image.dataBase
  | .instructions => other.instructionBase - image.instructionBase

/-- The warning that the segments of an image overlap, or none. -/
def Image.OverlapNotice (image : Image) (warnings : List Text) : Prop :=
  warnings = [] ∨
    warnings = [Layout.overlapWarning image.dataBase (image.dataBase + image.dataSize)
      image.instructionBase (image.instructionBase + image.instructionSize)]

/-- The second image is the first with its segments moved. -/
structure Relocated (program : Program) (image other : Image) : Prop where
  wordBits : other.wordBits = image.wordBits
  dataSize : other.dataSize = image.dataSize
  instructionSize : other.instructionSize = image.instructionSize
  data : other.data = image.data.map (PlacedData.moved (image.displacement other .data))
  /-- The tables agree in everything but the addresses: names, order, segments, locations, uses. -/
  symbols : other.symbols = image.symbols.moved (image.displacement other)
  /-- Instructions move with their segment; their operands are the subject of `statements`. -/
  instructions : List.Forall₂
    (fun p q => q =
      { p.moved (image.displacement other .instructions) with instruction := q.instruction })
    image.instructions other.instructions
  blocks : image.instructions = (List.range program.instructions.length).flatMap image.block ∧
    other.instructions = (List.range program.instructions.length).flatMap other.block
  statements : ∀ (index : Nat) (statement : Statement Instruction),
    program.instructions[index]? = some statement →
    ∃ form forms others, statement.body = .form form ∧
      (image.block index).map PlacedInstruction.instruction = forms.map .form ∧
      (other.block index).map PlacedInstruction.instruction = others.map .form ∧
      Relocates program (image.displacement other) form forms others
  warnings : ∃ notice otherNotice rest, image.warnings = notice ++ rest ∧
    other.warnings = otherNotice ++ rest ∧ image.OverlapNotice notice ∧
    other.OverlapNotice otherNotice

namespace Assembled

variable {program : Program} {config other : Config} {image again : Image}
  {layout otherLayout : Layout} {blocks otherBlocks : List (List PlacedInstruction)}

theorem displacement_eq (assembled : Assembled program config image layout blocks)
    (second : Assembled program other again otherLayout otherBlocks) :
    image.displacement again = layout.displacement otherLayout := by
  have first := assembled.image_eq
  have last := second.image_eq
  funext segment
  rw [first, last]
  cases segment <;> rfl

/-- The warnings of an image: that of its layout and those of the resolution. -/
theorem warnings_eq (assembled : Assembled program config image layout blocks) :
    image.warnings = layout.warnings ++ (resolve layout.symbols blocks.flatten).warnings := by
  rw [assembled.image_eq]
  rfl

theorem overlapNotice (assembled : Assembled program config image layout blocks) :
    image.OverlapNotice layout.warnings := by
  obtain ⟨data, code, -, -, rfl⟩ := Layout.build_eq_ok_iff.mp assembled.built
  have dataEnd : config.dataBase + (data.next - config.dataBase) = data.next := by omega
  have codeEnd : config.instructionBase.getD data.next +
      (code.next - config.instructionBase.getD data.next) = code.next := by omega
  rw [assembled.image_eq]
  simp only [Image.OverlapNotice, Image.ofLayout, Layout.ofWalks, Layout.layoutWarnings, dataEnd,
    codeEnd]
  split
  · exact .inr rfl
  · exact .inl rfl

theorem symbolTable_eq (assembled : Assembled program config image layout blocks) :
    image.symbols = (resolve layout.symbols blocks.flatten).symbols.freeze := by
  rw [assembled.image_eq]
  rfl

/-- The instructions of both images come from the same instructions before labels are replaced. -/
theorem relocated_instructions {distance : Int} {symbols others : SymbolTable}
    {placed resolved moved : List PlacedInstruction}
    (first : List.Forall₂ (Resolution.Resolves symbols) placed resolved)
    (second : List.Forall₂ (Resolution.Resolves others)
      (placed.map (PlacedInstruction.moved distance)) moved) :
    List.Forall₂ (fun p q => q = { p.moved distance with instruction := q.instruction })
      resolved moved := by
  induction first generalizing moved with
  | nil =>
    cases second
    exact .nil
  | @cons p q placed resolved done later ih =>
    obtain ⟨r, rest, otherDone, otherLater, rfl⟩ := List.forall₂_cons_left_iff.mp second
    obtain ⟨instruction, -, rfl⟩ := done
    obtain ⟨otherInstruction, -, rfl⟩ := otherDone
    exact .cons rfl (ih otherLater)

theorem relocated (read : program.WasRead) (sameWord : config.wordSize = other.wordSize)
    (assembled : Assembled program config image layout blocks)
    (second : Assembled program other again otherLayout otherBlocks) :
    Relocated program image again := by
  have displaced := Layout.build_displaced sameWord assembled.built second.built
  have distance := assembled.displacement_eq second
  have expands := second.expands
  rw [displaced.instructionAddresses, ← sameWord] at expands
  have flat : otherBlocks.flatten = blocks.flatten.map
      (PlacedInstruction.moved (layout.displacement otherLayout .instructions)) := by
    rw [assembled.expands.moved expands, List.map_flatten]
  have resolves := second.resolves
  rw [flat, displaced.symbols] at resolves
  obtain ⟨tables, warnings⟩ := Resolution.resolve_moved
    (resolve_eq_ok_iff.mpr assembled.resolves) (resolve_eq_ok_iff.mpr resolves)
  have first := assembled.image_eq
  have last := second.image_eq
  refine ⟨?_, ?_, ?_, ?_, ?_, ?_, ⟨assembled.imageBlocks.2, second.imageBlocks.2⟩, ?_, ?_⟩
  · rw [first, last]
    exact displaced.wordBits
  · rw [first, last]
    exact displaced.dataSize
  · rw [first, last]
    exact displaced.instructionSize
  · rw [distance, assembled.data_eq, second.data_eq]
    exact displaced.data
  · rw [distance, assembled.symbolTable_eq, second.symbolTable_eq, flat, displaced.symbols, tables]
    rfl
  · rw [distance]
    exact relocated_instructions assembled.resolves resolves
  · intro index statement source
    obtain ⟨form, forms, resolved, isForm, expanded, firstForms, same⟩ := assembled.forms source
    obtain ⟨form', forms', resolved', isForm', expanded', secondForms, same'⟩ :=
      second.forms source
    obtain rfl : form = form' := by
      rw [isForm] at isForm'
      exact Instruction.form.inj isForm'
    obtain rfl : forms = forms' := by
      rw [← sameWord, expanded] at expanded'
      exact Except.ok.inj expanded'
    obtain ⟨_, isRead, wasRead⟩ := read.instructions statement (List.mem_of_getElem? source)
    rw [isForm] at isRead
    cases isRead
    rw [displaced.symbols] at secondForms
    refine ⟨form, resolved, resolved', isForm, same, same', ?_⟩
    rw [distance]
    exact wasRead.relocates expanded (Layout.build_segmentOf? assembled.built) firstForms
      secondForms
  · refine ⟨layout.warnings, otherLayout.warnings, _, assembled.warnings_eq, ?_,
      assembled.overlapNotice, second.overlapNotice⟩
    rw [second.warnings_eq, flat, displaced.symbols, warnings]

end Assembled

/-! ## Lower places -/

theorem Config.make_of_holds (w : WordSize) {base : Int} (holds : w.holds base = true) :
    ∃ config, Config.make base none w.bits = .ok config ∧ config.dataBase = base ∧
      config.instructionBase = none ∧ config.wordSize = w := by
  have word : WordSize.ofBits? w.bits = some w := by cases w <;> rfl
  refine ⟨⟨base, none, w, holds, by simp⟩, ?_, rfl, rfl, rfl⟩
  simp [Config.make, word, holds]

/-- A program without a configured instruction base can be assembled at every lower data base. -/
theorem Program.WasRead.assemble_lower {program : Program} (read : program.WasRead)
    {config other : Config} (sameWord : config.wordSize = other.wordSize)
    (follows : config.instructionBase = none) (followsBelow : other.instructionBase = none)
    (below : other.dataBase ≤ config.dataBase)
    (assembled : ∃ image, assemble program config = .ok image) :
    ∃ image, assemble program other = .ok image := by
  obtain ⟨⟨layout, built⟩, fit, defined⟩ := read.accepts.mp assembled
  have lower := Layout.build_lower read sameWord follows followsBelow below built
  rw [sameWord] at fit
  exact read.accepts.mpr ⟨lower, fit, defined⟩

/-- Two images of a program from a document differ by the places of their segments only. With the
instructions after the data, a lower data base does for every program for which a higher one
does. -/
theorem assemble_relocation {document : Json} {program : Program}
    (read : Program.ofJson document = .ok program) :
    (∀ {config other : Config} {image again : Image}, config.wordSize = other.wordSize →
      assemble program config = .ok image → assemble program other = .ok again →
      Relocated program image again) ∧
    ∀ {config : Config} {image : Image}, config.instructionBase = none →
      assemble program config = .ok image → ∀ base, 0 ≤ base → base ≤ config.dataBase →
      ∃ lower lowerImage, Config.make base none config.wordSize.bits = .ok lower ∧
        assemble program lower = .ok lowerImage := by
  have wasRead := Program.ofJson_wasRead read
  constructor
  · intro config other image again sameWord assembled second
    obtain ⟨layout, blocks, passes⟩ := assemble_eq_ok_iff.mp assembled
    obtain ⟨otherLayout, otherBlocks, otherPasses⟩ := assemble_eq_ok_iff.mp second
    exact Assembled.relocated wasRead sameWord passes otherPasses
  · intro config image follows assembled base nonneg below
    have top := (WordSize.holds_iff.mp config.dataBase_holds).2
    have holds : config.wordSize.holds base = true :=
      WordSize.holds_iff.mpr ⟨nonneg, by omega⟩
    obtain ⟨lower, made, atBase, noBase, word⟩ := Config.make_of_holds config.wordSize holds
    obtain ⟨lowerImage, done⟩ := wasRead.assemble_lower word.symm follows noBase
      (atBase ▸ below) ⟨image, assembled⟩
    exact ⟨lower, lowerImage, made, done⟩

/-- A document with references into both segments; its last load names a label of the wrong
segment. -/
def Json.linked : Json :=
  .object
    [("data", .array
      [.object [("kind", .string "word"), ("label", .string "table"),
        ("values", .array [.int 7, .string "0x10"])]]),
      ("instructions", .array
        [.object [("mnemonic", .string "JMP"), ("label", .string "start"),
            ("operands", .array [.object [("identifier", .string "end")]])],
          .object [("mnemonic", .string "LDA"),
            ("operands", .array
              [.object [("register", .string "A0")], .object [("identifier", .string "table")]])],
          .object [("mnemonic", .string "JAL"),
            ("operands", .array [.object [("literal", .string "0x40")]])],
          .object [("mnemonic", .string "LDA"), ("label", .string "end"),
            ("operands", .array
              [.object [("register", .string "A1")],
                .object [("identifier", .string "start")]])]])]

def Program.linked : Program :=
  { data :=
      [⟨.list .word [.numeral ⟨.dec, 7, false, "7"⟩, .numeral ⟨.hex, 16, false, "0x10"⟩],
        some "table"⟩]
    instructions :=
      [⟨.form (.jump .jmp (.label "end")), some "start"⟩,
        ⟨.form (.loadAddress .lda .a0 (.label "table")), none⟩,
        ⟨.form (.jump .jal (.fixed (.numeral ⟨.hex, 0x40, false, "0x40"⟩))), none⟩,
        ⟨.form (.loadAddress .lda .a1 (.label "start")), some "end"⟩] }

/-- The instructions start inside the data. -/
def Config.entangled : Config :=
  ⟨0x10000, some 0x10004, .bits32, by decide, fun _ base => Option.some.inj base ▸ by decide⟩

/-- From address zero, without an overlap, to a place where the segments overlap. The data move by
0x10000 and the instructions, which followed the eight bytes of data, by four bytes less. -/
theorem assemble_relocation_linked :
    ∃ image again, Program.ofJson .linked = .ok .linked ∧
      assemble .linked .standard = .ok image ∧ assemble .linked .entangled = .ok again ∧
      image.displacement again .data = 0x10000 ∧
      image.displacement again .instructions = 0xFFFC ∧
      image.warnings.length = 1 ∧ again.warnings.length = 2 ∧
      Relocated .linked image again ∧
      ∃ upper lower lowerImage, assemble .linked .sample = .ok upper ∧
        Config.make 5 none 32 = .ok lower ∧ assemble .linked lower = .ok lowerImage := by
  have read : Program.ofJson .linked = .ok .linked :=
    Outcome.toOption_eq_some_iff.mp (by decide +kernel)
  obtain ⟨moves, lowers⟩ := assemble_relocation read
  have follows : Config.sample.instructionBase = none := rfl
  have sameWord : Config.standard.wordSize = Config.entangled.wordSize := rfl
  obtain ⟨lower, lowerImage, made, assembled⟩ := lowers follows rfl 5 (by decide) (by decide)
  exact ⟨_, _, read, rfl, rfl, by decide +kernel, by decide +kernel, by decide +kernel,
    by decide +kernel, moves sameWord rfl rfl, _, lower, lowerImage, rfl, made, assembled⟩

end Assembler
