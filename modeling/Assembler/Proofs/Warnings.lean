import Assembler.Proofs.Labels
import Assembler.Proofs.Placement
import Assembler.Proofs.Relocation

/-!
# Warnings

An image may carry two kinds of warnings. The first comes from the layout and says that the segments
overlap: if the sizes of areas are absolute values, it is there exactly if some byte belongs to a
data element and to an instruction. An area of negative size lets the data end before a byte of
theirs, and such bytes escape the comparison. The other warnings come from the resolution, one for
each statement that loads the address of a label of the wrong segment, in the order of the
statements.
-/

namespace Assembler

/-! ## Labels of the wrong segment -/

/-- The warning that a statement gives rise to: `LDA` is for labels of data, `LIA` for labels of
instructions. -/
def Program.mismatch? (program : Program) (index : Nat) : Instruction → Option Text
  | .form (.loadAddress op _ (.label name)) =>
    match op, program.segmentOf? name with
    | .lda, some .instructions =>
      some ((instructionLocation index).text ++ ": LDA expects a data label, but '" ++ name ++
        "' is an instruction label")
    | .lia, some .data =>
      some ((instructionLocation index).text ++ ": LIA expects an instruction label, but '" ++
        name ++ "' is a data label")
    | _, _ => none
  | _ => none

/-- The warnings of the statements that are numbered from an index on. -/
def Program.mismatchesFrom (program : Program) (index : Nat)
    (statements : List (Statement Instruction)) : List Text :=
  (statements.zipIdx index).filterMap fun (statement, k) => program.mismatch? k statement.body

/-- The warnings of the statements of a program, in order. -/
def Program.mismatches (program : Program) : List Text :=
  program.mismatchesFrom 0 program.instructions

namespace Resolution

variable {symbols other : SymbolTable}

theorem mismatch?_congr (same : symbols.symbols = other.symbols) (placed : PlacedInstruction) :
    mismatch? symbols placed = mismatch? other placed := by
  unfold mismatch?
  simp only [SymbolTable.find?_congr same]

/-- A pass that succeeds collects the warnings of its instructions. -/
theorem warnings_of_resolve {placed resolved : List PlacedInstruction}
    (done : (resolve symbols placed).outcome = .ok resolved) :
    (resolve symbols placed).warnings = placed.filterMap (mismatch? symbols) := by
  induction placed generalizing symbols resolved with
  | nil => rfl
  | cons first rest ih =>
    have same : (noteUse symbols first).symbols = symbols.symbols := noteUse_symbols
    simp only [resolve] at done ⊢
    split at done
    · cases done
    · obtain ⟨tail, others, -⟩ := Outcome.map_eq_ok_iff.mp done
      have later := ih others
      have step : ∀ p, mismatch? (noteUse symbols first) p = mismatch? symbols p :=
        fun p => mismatch?_congr same p
      rw [funext step] at later
      rw [later, step, List.filterMap_cons]
      cases mismatch? symbols first <;> rfl

/-- An instruction that comes from no pseudo-instruction gives rise to no warning. -/
theorem mismatch?_of_canonical {placed : PlacedInstruction}
    (canonical : placed.expandedFrom = none) : mismatch? symbols placed = none := by
  unfold mismatch?
  rw [canonical]
  split
  · rename_i absurd
    cases absurd
  · rfl

/-- The first instruction of an address load has the warning of the statement. -/
theorem mismatch?_loadAddress {program : Program}
    (segments : ∀ name, (symbols.find? name).map Symbol.segment = program.segmentOf? name)
    (address : Int) (index : Nat) (label : Option Text) (op : Opcode) (rd : Register)
    (target : Operand) :
    mismatch? symbols
        ⟨address, .form (.loadImm .li rd target), instructionLocation index, label, some op⟩ =
      program.mismatch? index (.form (.loadAddress op rd target)) := by
  cases target with
  | label name =>
    simp only [mismatch?, Program.mismatch?, ← segments name]
    cases found : symbols.find? name with
    | none => cases op <;> rfl
    | some symbol =>
      have named := (SymbolTable.mem_of_find? found).2
      cases op with
      | lda | lia =>
        cases own : symbol.segment <;>
          simp only [expectedSegment, own, mismatchWarning, Location.textOf, labelKind, named,
            Opcode.name, Option.map_some, List.append_assoc] <;>
          rfl
      | _ => rfl
  | _ => rfl

/-- The instructions of a statement have the warning of the statement, once. -/
theorem filterMap_mismatch?_placeForms {program : Program}
    (segments : ∀ name, (symbols.find? name).map Symbol.segment = program.segmentOf? name)
    {bits address : Int} {index : Nat} {statement : Statement Instruction} {forms : List Form}
    (expanded : statement.body.expand bits (instructionLocation index) = .ok forms) :
    (placeForms bits (instructionLocation index) statement.body.pseudoOpcode? address
        statement.label forms).filterMap (mismatch? symbols) =
      (program.mismatch? index statement.body).toList := by
  obtain ⟨form, isForm, expanded⟩ := Instruction.expand_eq_ok_iff.mp expanded
  rw [isForm]
  cases form with
  | push | pop =>
    cases expanded
    rfl
  | loadWord rd imm =>
    obtain ⟨value, -, rfl⟩ := Outcome.map_eq_ok_iff.mp expanded
    unfold Form.loadWordForms
    split <;> rfl
  | loadAddress op rd target =>
    cases expanded
    have marked : (Instruction.form (.loadAddress op rd target)).pseudoOpcode? = some op := rfl
    have first := mismatch?_loadAddress segments address index statement.label op rd target
    rw [marked, placeForms, placeForms, placeForms, List.filterMap_cons, first]
    -- The second instruction sets the upper half, which is not looked at.
    cases program.mismatch? index (.form (.loadAddress op rd target)) <;> rfl
  | _ =>
    have canonical : ∀ p ∈ placeForms bits (instructionLocation index) none address
        statement.label forms, mismatch? symbols p = none := by
      intro p member
      obtain ⟨k, found⟩ := List.mem_iff_getElem?.mp member
      obtain ⟨f, -, rfl⟩ := getElem?_placeForms.mp found
      exact mismatch?_of_canonical rfl
    exact List.filterMap_eq_nil_iff.mpr canonical

end Resolution

section Assembly

variable {program : Program} {config : Config} {image : Image} {layout : Layout}
  {blocks : List (List PlacedInstruction)}

/-- The table and the statements agree on the segments of labels. -/
theorem Layout.build_find?_segment (built : Layout.build program config = .ok layout)
    (name : Text) :
    (layout.symbols.find? name).map Symbol.segment = program.segmentOf? name := by
  cases found : layout.symbols.find? name with
  | some symbol => exact (build_segmentOf? built found).symm
  | none =>
    have absent := SymbolTable.find?_eq_none_iff.mp found
    rw [build_names built, Program.labels, List.mem_append, not_or] at absent
    rw [Program.segmentOf?, if_neg absent.1, if_neg absent.2]
    rfl

/-- The warnings of the blocks of a segment are those of its statements. -/
theorem Expands.mismatches {symbols : SymbolTable}
    (segments : ∀ name, (symbols.find? name).map Symbol.segment = program.segmentOf? name)
    {bits : Int} {index : Nat} {statements : List (Statement Instruction)} {addresses : List Int}
    (steps : Expands bits index statements addresses blocks) :
    blocks.flatten.filterMap (Resolution.mismatch? symbols) =
      program.mismatchesFrom index statements := by
  induction steps with
  | nil => rfl
  | cons expanded others ih =>
    rw [List.flatten_cons, List.filterMap_append, ih,
      Resolution.filterMap_mismatch?_placeForms segments expanded]
    simp only [Program.mismatchesFrom, List.zipIdx_cons, List.filterMap_cons]
    split <;> rename_i warning <;> simp [warning]

/-- The warnings of an image are that of its layout and those of the statements. -/
theorem Assembled.warnings_eq_mismatches
    (assembled : Assembled program config image layout blocks) :
    image.warnings = layout.warnings ++ program.mismatches := by
  have resolved := resolve_eq_ok_iff.mpr assembled.resolves
  have segments := Layout.build_find?_segment assembled.built
  rw [assembled.warnings_eq, Resolution.warnings_of_resolve resolved,
    assembled.expands.mismatches segments, Program.mismatches]

/-- After the warning about an overlap, if there is one, come one warning for each load of an
address from the wrong segment, in the order of the statements, and no others. -/
theorem assemble_mismatches (assembled : assemble program config = .ok image) :
    ∃ notice, image.OverlapNotice notice ∧ image.warnings = notice ++ program.mismatches := by
  obtain ⟨layout, blocks, passes⟩ := assemble_eq_ok_iff.mp assembled
  exact ⟨layout.warnings, passes.overlapNotice, passes.warnings_eq_mismatches⟩

end Assembly

/-! ## Segments that overlap -/

/-- A byte lies in one of some data elements. -/
def InData (data : List PlacedData) (byte : Int) : Prop :=
  ∃ d ∈ data, d.address ≤ byte ∧ byte < d.address + d.size

/-- A byte lies in one of some instructions, each of which takes up a word. -/
def InCode (bytes : Int) (instructions : List PlacedInstruction) (byte : Int) : Prop :=
  ∃ p ∈ instructions, p.address ≤ byte ∧ byte < p.address + bytes

theorem Layout.Tiles.le_stop {data : List PlacedData} {start stop : Int}
    (tiles : Tiles start data stop) (nonneg : ∀ d ∈ data, 0 ≤ d.size) : start ≤ stop := by
  induction data generalizing start with
  | nil =>
    have same : start = stop := tiles
    exact same.le
  | cons d rest ih =>
    obtain ⟨address, tiles⟩ := tiles
    rw [List.forall_mem_cons] at nonneg
    have own := nonneg.1
    have later := ih tiles nonneg.2
    omega

/-- Elements that lie one after the other take up all bytes from the first address to the last. -/
theorem Layout.Tiles.inData_iff {data : List PlacedData} {start stop : Int}
    (tiles : Tiles start data stop) (nonneg : ∀ d ∈ data, 0 ≤ d.size) {byte : Int} :
    InData data byte ↔ start ≤ byte ∧ byte < stop := by
  induction data generalizing start with
  | nil =>
    have same : start = stop := tiles
    simp only [InData, List.not_mem_nil, false_and, exists_false, false_iff]
    omega
  | cons d rest ih =>
    obtain ⟨address, tiles⟩ := tiles
    rw [List.forall_mem_cons] at nonneg
    have later := ih tiles nonneg.2
    have own := nonneg.1
    have upTo := tiles.le_stop nonneg.2
    have split : InData (d :: rest) byte ↔
        (d.address ≤ byte ∧ byte < d.address + d.size) ∨ InData rest byte := by
      simp [InData]
    rw [split, later]
    omega

/-- Instructions one word apart take up all bytes of their segment. -/
theorem Consecutive.inCode_iff {bytes base : Int} {placed : List PlacedInstruction}
    (consecutive : Consecutive bytes base placed) (pos : 0 < bytes) {byte : Int} :
    InCode bytes placed byte ↔ base ≤ byte ∧ byte < base + placed.length * bytes := by
  constructor
  · intro ⟨p, member, from_start, below⟩
    obtain ⟨k, found⟩ := List.mem_iff_getElem?.mp member
    have address := consecutive k p found
    have inside := (List.getElem?_eq_some_iff.mp found).1
    have first : 0 ≤ (k : Int) * bytes := mul_nonneg (Int.natCast_nonneg k) pos.le
    have last : ((k : Int) + 1) * bytes ≤ placed.length * bytes := by
      apply mul_le_mul_of_nonneg_right _ pos.le
      exact_mod_cast inside
    rw [add_one_mul] at last
    omega
  · intro ⟨from_base, below⟩
    -- The instruction of a byte is found by dividing its distance from the base.
    have nonneg : 0 ≤ (byte - base) / bytes := Int.ediv_nonneg (by omega) pos.le
    obtain ⟨k, number⟩ := Int.eq_ofNat_of_zero_le nonneg
    have division := Int.mul_ediv_add_emod (byte - base) bytes
    have rest := Int.emod_nonneg (byte - base) pos.ne'
    have short := Int.emod_lt_of_pos (byte - base) pos
    rw [number, mul_comm] at division
    have inside : k < placed.length := by
      have beyond : (byte - base) / bytes < placed.length :=
        Int.ediv_lt_of_lt_mul pos (by omega)
      omega
    have found := List.getElem?_eq_getElem inside
    have address := consecutive k _ found
    exact ⟨_, List.mem_of_getElem? found, by omega, by omega⟩

section Overlap

open Layout

/-- The comparisons of the layout find out whether two stretches of bytes have one in common. -/
theorem Layout.overlaps_iff {dataBase dataEnd codeBase codeEnd : Int} :
    overlaps dataBase dataEnd codeBase codeEnd = true ↔
      ∃ byte, (dataBase ≤ byte ∧ byte < dataEnd) ∧ codeBase ≤ byte ∧ byte < codeEnd := by
  simp only [overlaps, Bool.and_eq_true, decide_eq_true_eq]
  constructor
  · intro ⟨⟨⟨dataBytes, codeBytes⟩, codeFirst⟩, dataFirst⟩
    exact ⟨max dataBase codeBase, by omega, by omega⟩
  · intro ⟨byte, inData, inCode⟩
    omega

/-- A text that says that segments overlap. -/
def Layout.IsOverlapWarning (text : Text) : Prop :=
  ∃ dataBase dataEnd codeBase codeEnd, text = overlapWarning dataBase dataEnd codeBase codeEnd

/-- A byte lies in a data element and in an instruction of an image. -/
def Image.SharesByte (image : Image) (bytes : Int) : Prop :=
  ∃ byte, InData image.data byte ∧ InCode bytes image.instructions byte

/-- The warning about the segments of an image. -/
def Image.overlapWarning (image : Image) : Text :=
  Layout.overlapWarning image.dataBase (image.dataBase + image.dataSize) image.instructionBase
    (image.instructionBase + image.instructionSize)

variable {program : Program} {config : Config} {image : Image} {layout : Layout}
  {blocks : List (List PlacedInstruction)}

/-- The warning of a statement starts with its location. -/
theorem Program.mismatches_start {text : Text} (member : text ∈ program.mismatches) :
    ∃ rest, text = "." ++ rest := by
  obtain ⟨⟨statement, k⟩, -, warned⟩ := List.mem_filterMap.mp member
  have located : ∃ rest, text = (instructionLocation k).text ++ rest := by
    simp only [Program.mismatch?] at warned
    split at warned
    · split at warned
      · cases warned
        iterate 2 rw [List.append_assoc]
        exact ⟨_, rfl⟩
      · cases warned
        iterate 2 rw [List.append_assoc]
        exact ⟨_, rfl⟩
      · cases warned
    · cases warned
  obtain ⟨rest, rfl⟩ := located
  simp only [Location.text, Segment.text, Text.ofString_append, List.append_assoc]
  exact ⟨_, rfl⟩

theorem Layout.IsOverlapWarning.start {text : Text} (isOverlap : IsOverlapWarning text) :
    ∃ rest, text = "instruction segment " ++ rest := by
  obtain ⟨dataBase, dataEnd, codeBase, codeEnd, rfl⟩ := isOverlap
  unfold Layout.overlapWarning
  iterate 6 rw [List.append_assoc]
  exact ⟨_, rfl⟩

theorem Program.not_isOverlapWarning {text : Text} (member : text ∈ program.mismatches) :
    ¬ IsOverlapWarning text := by
  intro isOverlap
  obtain ⟨rest, located⟩ := mismatches_start member
  obtain ⟨other, overlaps⟩ := isOverlap.start
  have first := congrArg List.head? (located.symm.trans overlaps)
  have apart : some (CodePoint.char '.') ≠ some (.char 'i') := by decide
  exact apart first

namespace Assembled

/-- The bytes of the segments of an image. -/
theorem sharesByte_iff (assembled : Assembled program config image layout blocks)
    (absolute : program.AbsoluteSizes) :
    image.SharesByte config.wordSize.bytes ↔
      overlaps image.dataBase (image.dataBase + image.dataSize) image.instructionBase
        (image.instructionBase + image.instructionSize) = true := by
  have placement := assembled.placement
  have sizes : ∀ d ∈ image.data, 0 ≤ d.size := by
    intro d member
    have source : ⟨d.element, d.label⟩ ∈ program.data := by
      rw [← placement.elements]
      exact List.mem_map_of_mem member
    exact Element.size_nonneg (placement.sizes d member) (absolute _ source)
  have consecutive : Consecutive config.wordSize.bytes image.instructionBase image.instructions :=
    placement.consecutive
  have size : image.instructionSize = image.instructions.length * config.wordSize.bytes :=
    placement.instructionSize
  rw [overlaps_iff, Image.SharesByte, size]
  simp only [placement.tiles.inData_iff sizes, consecutive.inCode_iff config.wordSize.bytes_pos]

/-- Instructions that follow the data share no byte with them. -/
theorem not_overlaps_of_follows (assembled : Assembled program config image layout blocks)
    (follows : config.instructionBase = none) :
    overlaps image.dataBase (image.dataBase + image.dataSize) image.instructionBase
      (image.instructionBase + image.instructionSize) = false := by
  have base := assembled.placement.instructionBase
  rw [follows, Option.getD_none] at base
  rw [Bool.eq_false_iff, Ne, overlaps_iff, base]
  intro ⟨byte, inData, inCode⟩
  omega

/-- The layout warns exactly if the segments overlap. -/
theorem layout_warnings (assembled : Assembled program config image layout blocks) :
    layout.warnings =
      if overlaps image.dataBase (image.dataBase + image.dataSize) image.instructionBase
          (image.instructionBase + image.instructionSize) then [image.overlapWarning]
      else [] := by
  have apart := assembled.not_overlaps_of_follows
  obtain ⟨data, code, -, -, rfl⟩ := build_eq_ok_iff.mp assembled.built
  have same := assembled.image_eq
  have dataBase : image.dataBase = config.dataBase := by
    rw [same]
    rfl
  have dataEnd : image.dataBase + image.dataSize = data.next := by
    rw [same]
    exact add_sub_cancel _ _
  have codeBase : image.instructionBase = config.instructionBase.getD data.next := by
    rw [same]
    rfl
  have codeEnd : image.instructionBase + image.instructionSize = code.next := by
    rw [same]
    exact add_sub_cancel _ _
  rw [Image.overlapWarning]
  rw [dataEnd, codeEnd, dataBase, codeBase] at apart ⊢
  simp only [ofWalks, layoutWarnings]
  cases configured : config.instructionBase with
  | none =>
    rw [configured] at apart
    simpa using apart rfl
  | some base => simp

end Assembled

/-- If the sizes of areas are absolute values, an image warns of an overlap exactly if some byte
belongs to a data element and to an instruction. Whatever they are, only its first warning says so,
and it gives the bounds of the segments. Without a configured instruction base there is no such
warning. -/
theorem assemble_overlap (assembled : assemble program config = .ok image) :
    (program.AbsoluteSizes →
        ((∃ text ∈ image.warnings, IsOverlapWarning text) ↔
          image.SharesByte config.wordSize.bytes)) ∧
      ((∃ text ∈ image.warnings, IsOverlapWarning text) →
        ∃ rest, image.warnings = image.overlapWarning :: rest ∧
          ∀ text ∈ rest, ¬ IsOverlapWarning text) ∧
      (config.instructionBase = none → ∀ text ∈ image.warnings, ¬ IsOverlapWarning text) := by
  obtain ⟨layout, blocks, passes⟩ := assemble_eq_ok_iff.mp assembled
  have shares := passes.sharesByte_iff
  have apart := passes.not_overlaps_of_follows
  have own : IsOverlapWarning image.overlapWarning := ⟨_, _, _, _, rfl⟩
  have others : ∀ text ∈ program.mismatches, ¬ IsOverlapWarning text :=
    fun text member => Program.not_isOverlapWarning member
  rw [passes.warnings_eq_mismatches, passes.layout_warnings]
  cases overlap : overlaps image.dataBase (image.dataBase + image.dataSize) image.instructionBase
      (image.instructionBase + image.instructionSize) with
  | true =>
    refine ⟨fun absolute => ⟨fun _ => (shares absolute).mpr overlap, fun _ =>
      ⟨_, List.mem_cons_self, own⟩⟩, fun _ => ⟨program.mismatches, rfl, others⟩, ?_⟩
    intro follows
    rw [apart follows] at overlap
    cases overlap
  | false =>
    have none : ¬ ∃ text ∈ [] ++ program.mismatches, IsOverlapWarning text :=
      fun ⟨text, member, isOverlap⟩ => others text member isOverlap
    refine ⟨fun absolute => ?_, fun warned => absurd warned none, fun _ => others⟩
    rw [shares absolute, overlap]
    exact ⟨fun warned => absurd warned none, nofun⟩

end Overlap

/-! ## A program to apply the theorems to -/

/-- A program that loads addresses from both segments, each once with the wrong opcode. -/
def Program.crossed : Program :=
  { data := [⟨.block (.numeral ⟨.dec, 5, false, "5"⟩), some "table"⟩]
    instructions :=
      [⟨.form (.loadAddress .lia .a0 (.label "table")), some "start"⟩,
        ⟨.form (.loadAddress .lda .a1 (.label "table")), none⟩,
        ⟨.form (.loadAddress .lia .a1 (.label "start")), none⟩,
        ⟨.form (.loadAddress .lda .a2 (.label "start")), none⟩] }

theorem assemble_mismatches_crossed :
    ∃ image, assemble .crossed .entangled = .ok image ∧
      Program.crossed.mismatches =
        ([".instructions[0]: LIA expects an instruction label, but 'table' is a data label",
          ".instructions[3]: LDA expects a data label, but 'start' is an instruction label"] :
            List Text) ∧
      image.warnings.length = 3 ∧
      ∃ notice, image.OverlapNotice notice ∧
        image.warnings = notice ++ Program.crossed.mismatches := by
  have assembled : assemble .crossed .entangled = .ok _ := rfl
  exact ⟨_, assembled, by decide +kernel, by decide +kernel, assemble_mismatches assembled⟩

/-- The last byte of the data is the first of the instructions. -/
theorem assemble_overlap_crossed :
    ∃ image, assemble .crossed .entangled = .ok image ∧ image.SharesByte 4 ∧
      ∃ rest, image.warnings = image.overlapWarning :: rest ∧
        ∀ text ∈ rest, ¬ Layout.IsOverlapWarning text := by
  have assembled : assemble .crossed .entangled = .ok _ := rfl
  obtain ⟨shared, first, -⟩ := assemble_overlap assembled
  have warned := fun shares => first ((shared (by decide)).mpr shares)
  refine ⟨_, assembled, (and_iff_left_of_imp warned).mpr ⟨0x10004, ?_, ?_⟩⟩
  · unfold InData
    decide +kernel
  · unfold InCode
    decide +kernel

/-- Eight bytes of data, an area of size -8, and an instruction. -/
def Program.retracted : Program :=
  { data := [⟨.block (.numeral ⟨.dec, 8, false, "8"⟩), none⟩,
      ⟨.block (.numeral ⟨.hex, -8, false, "-0x8"⟩), none⟩]
    instructions := [⟨.form (.simple .nop), none⟩] }

/-- The instructions from address 2 on. -/
def Config.early : Config := { Config.standard with
  instructionBase := some 2
  instructionBase_holds := fun _ base => Option.some.inj base ▸ by decide }

/-- The instruction lies in the eight bytes, but the data end where they start, and nothing is said
of the overlap. -/
theorem not_overlapWarning_of_negative_magnitude :
    ∃ image, assemble .retracted .early = .ok image ∧ image.SharesByte 4 ∧
      image.warnings = [] := by
  refine ⟨_, rfl, ⟨2, ?_, ?_⟩, by decide +kernel⟩
  · unfold InData
    decide +kernel
  · unfold InCode
    decide +kernel

end Assembler
