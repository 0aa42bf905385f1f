import Assembler.Proofs.Placement

/-!
# References

A label stands for the address of the one statement that carries it. The theorem of this module
follows a reference from its statement to the image: a jump target is the address that its label
stands for, an address load is the two halves of it, and a literal target is the number that was
written, wherever the segments lie.
-/

namespace Assembler

/-! ## What references mean -/

/-- A label stands for an address: one statement of the program carries it, and what was placed for
this statement carries it too and starts there. -/
structure LabelAt (program : Program) (image : Image) (name : Text) (address : Int) :
    Prop where
  once : program.labels.count name = 1
  starts :
    (∃ (k : Nat) (statement : Statement Element) (d : PlacedData),
        program.data[k]? = some statement ∧ statement.label = some name ∧
          image.data[k]? = some d ∧ d.label = some name ∧ d.address = address) ∨
      ∃ (k : Nat) (statement : Statement Instruction) (p : PlacedInstruction)
        (rest : List PlacedInstruction),
        program.instructions[k]? = some statement ∧ statement.label = some name ∧
          image.block k = p :: rest ∧ p.label = some name ∧ p.address = address

/-- The number that is written as a literal target, in a field of `bits` bits. -/
inductive StandsFor (bits : Nat) : Operand → Int → Prop
  | numeral {l : Literal} {value : Int} (interpreted : l.interpret bits .unsigned = .ok value)
      (same : value = l.number) : StandsFor bits (.numeral l) value
  | number {value : Int} (nonneg : 0 ≤ value) (below : value < Bits.patterns bits) :
    StandsFor bits (.number value) value

/-- What becomes of a jump target. -/
def TargetLinks (program : Program) (image : Image) (bits : Nat) (target final : Operand) : Prop :=
  match target with
  | .label name => ∃ address, LabelAt program image name address ∧ final = .address address
  | .fixed value => ∃ address, StandsFor bits value address ∧ final = .address address
  | _ => True

/-- What becomes of an instruction that refers to an address. -/
def Links (program : Program) (image : Image) (bits : Nat) (form : Form) (block : List Form) :
    Prop :=
  match form with
  | .branch op rs target =>
    ∃ final, TargetLinks program image bits target final ∧ block = [.branch op rs final]
  | .jump op target =>
    ∃ final, TargetLinks program image bits target final ∧ block = [.jump op final]
  | .loadAddress _ rd (.label name) =>
    ∃ low high, (0 ≤ low ∧ low ≤ 0xFFFF) ∧ (0 ≤ high ∧ high ≤ 0xFFFF) ∧
      LabelAt program image name (Bits.join low high 16) ∧
      block = [.loadImm .li rd (.address low), .setImm .lhi rd (.address high)]
  | _ => True

namespace Assembled

variable {program : Program} {config : Config} {image : Image} {layout : Layout}
  {blocks : List (List PlacedInstruction)}

/-! ## Labels -/

/-- The table gives a label the address that it stands for. -/
theorem labelAt (assembled : Assembled program config image layout blocks) {name : Text}
    {s : Symbol} (found : layout.symbols.find? name = some s) :
    LabelAt program image name s.address := by
  obtain ⟨member, named⟩ := SymbolTable.mem_of_find? found
  have names := Layout.build_names assembled.built
  have once : program.labels.count name = 1 := by
    rw [← names]
    apply List.count_eq_one_of_mem (Layout.build_distinct assembled.built)
    exact named ▸ List.mem_map_of_mem member
  refine ⟨once, ?_⟩
  rw [Layout.build_symbols assembled.built, List.mem_append, Layout.mem_labelSymbols,
    Layout.mem_labelSymbols] at member
  rcases member with ⟨k, statement, source, target, label, -, -⟩ |
      ⟨k, statement, source, target, label, -, -⟩
  · left
    rw [← assembled.data_eq, List.getElem?_map, Option.map_eq_some_iff] at target
    obtain ⟨d, placed, start⟩ := target
    have carried := congrArg (fun statements => statements[k]?)
      (Layout.build_data_labels assembled.built)
    rw [← assembled.data_eq] at carried
    simp only [List.getElem?_map, placed, source, Option.map_some, Option.some.injEq] at carried
    subst carried
    exact ⟨k, _, d, source, named ▸ label, placed, named ▸ label, start⟩
  · right
    obtain ⟨address, atAddress, isBlock⟩ := assembled.isBlockOf source
    rw [target, Option.some.injEq] at atAddress
    obtain ⟨p, rest, block, start, carried⟩ := isBlock.head
    rw [label, named] at carried
    exact ⟨k, statement, p, rest, source, named ▸ label, block, carried, start.trans atAddress.symm⟩

/-! ## References -/

theorem targetLinks (assembled : Assembled program config image layout blocks)
    {location : Option Location} {target checked final : Operand}
    (check : target.checkTarget config.wordSize.bits location = .ok checked)
    (resolves : Resolution.resolveTarget layout.symbols location checked = .ok final) :
    TargetLinks program image config.wordSize.bits target final := by
  cases target with
  | label name =>
    cases check
    obtain ⟨s, found, rfl⟩ := Resolution.resolveTarget_label.mp resolves
    exact ⟨s.address, assembled.labelAt found, rfl⟩
  | fixed value =>
    obtain ⟨n, fit, rfl⟩ := Outcome.map_eq_ok_iff.mp check
    cases resolves
    refine ⟨n, ?_, rfl⟩
    rcases (Operand.fit_eq_ok_iff config.wordSize.fieldWidth).mp fit with
      ⟨l, rfl, interpreted⟩ | ⟨rfl, inside⟩
    · exact .numeral interpreted (Literal.interpret_unsigned interpreted)
    · obtain ⟨nonneg, below⟩ := Bits.unsignedRange_holds_iff.mp inside
      exact .number nonneg below
  | _ => trivial

/-- An address load is the two halves of the address of its label. -/
theorem halves (assembled : Assembled program config image layout blocks)
    {location : Option Location} {name : Text} {low high : Operand}
    (lower : Resolution.resolveLow layout.symbols location (.label name) = .ok low)
    (upper : Resolution.resolveHigh layout.symbols location (.label name) = .ok high) :
    ∃ l h, low = .address l ∧ high = .address h ∧ (0 ≤ l ∧ l ≤ 0xFFFF) ∧ (0 ≤ h ∧ h ≤ 0xFFFF) ∧
      LabelAt program image name (Bits.join l h 16) := by
  obtain ⟨s, found, rfl⟩ := Resolution.resolveLow_label.mp lower
  obtain ⟨t, again, inside, rfl⟩ := Resolution.resolveHigh_label.mp upper
  rw [found, Option.some.injEq] at again
  subst again
  have patterns : Bits.patterns Bits.immediateWidth = 0x10000 := by decide
  have lowRange := Bits.split_low_range s.address Bits.immediateWidth
  have highRange := Bits.unsignedRange_holds_iff.mp inside
  refine ⟨_, _, rfl, rfl, by omega, by omega, ?_⟩
  have joined := Bits.join_split s.address Bits.immediateWidth
  rw [show (16 : Nat) = Bits.immediateWidth from rfl, joined]
  exact assembled.labelAt found

/-- What the passes make of an instruction that refers to an address. -/
theorem links (assembled : Assembled program config image layout blocks)
    {location : Option Location} {form : Form} {forms resolved : List Form}
    (expanded : form.expand config.wordSize.bits location = .ok forms)
    (resolves : Resolution.ResolvesForms layout.symbols location forms resolved) :
    Links program image config.wordSize.bits form resolved := by
  cases form with
  | branch | jump =>
    obtain ⟨_, _, formCheck, formDone, rfl⟩ := resolves.of_canonical rfl expanded
    obtain ⟨checked, check, rfl⟩ := Outcome.map_eq_ok_iff.mp formCheck
    obtain ⟨final, done, rfl⟩ := Outcome.map_eq_ok_iff.mp formDone
    exact ⟨final, assembled.targetLinks check done, rfl⟩
  | loadAddress op rd target =>
    cases target with
    | label name =>
      cases expanded
      obtain ⟨_, _, first, others, rfl⟩ := List.forall₂_cons_left_iff.mp resolves
      obtain ⟨_, _, second, none, rfl⟩ := List.forall₂_cons_left_iff.mp others
      cases none
      obtain ⟨low, lower, rfl⟩ := Outcome.map_eq_ok_iff.mp first
      obtain ⟨high, upper, rfl⟩ := Outcome.map_eq_ok_iff.mp second
      obtain ⟨l, h, rfl, rfl, lowRange, highRange, label⟩ := assembled.halves lower upper
      exact ⟨l, h, lowRange, highRange, label, rfl⟩
    | _ => trivial
  | _ => trivial

/-- The block of a statement is a stretch of the image. -/
theorem block_infix (assembled : Assembled program config image layout blocks) {k : Nat}
    {statement : Statement Instruction} (source : program.instructions[k]? = some statement) :
    ∃ before after, image.instructions = before ++ image.block k ++ after := by
  have inside := (List.getElem?_eq_some_iff.mp source).1
  obtain ⟨before, after, split⟩ := List.append_of_mem (List.mem_range.mpr inside)
  refine ⟨before.flatMap image.block, after.flatMap image.block, ?_⟩
  rw [assembled.imageBlocks.2, split]
  simp

end Assembled

/-- References are correct from the statement to the image. The instructions of a statement stand
together in the image, and a target in them is the address of the one statement that carries the
label, whole or as two halves, or the literal address that was written. -/
theorem assemble_references {program : Program} {config : Config} {image : Image}
    (assembled : assemble program config = .ok image) {index : Nat}
    {statement : Statement Instruction}
    (source : program.instructions[index]? = some statement) :
    ∃ form forms, statement.body = .form form ∧
      (∃ before after, image.instructions = before ++ image.block index ++ after) ∧
      (image.block index).map PlacedInstruction.instruction = forms.map .form ∧
      Links program image config.wordSize.bits form forms := by
  obtain ⟨layout, blocks, passes⟩ := assemble_eq_ok_iff.mp assembled
  obtain ⟨form, expanded, resolved, isForm, expands, resolves, same⟩ := passes.forms source
  exact ⟨form, resolved, isForm, passes.block_infix source, same, passes.links expands resolves⟩

theorem assemble_references_sample :
    ∃ image, assemble .sample .sample = .ok image ∧
      Program.sample.instructions[1]? =
        some ⟨.form (.loadAddress .lda .a0 (.label "table")), none⟩ ∧
      Links .sample image 32 (.loadAddress .lda .a0 (.label "table"))
        [.loadImm .li .a0 (.address 0xFFFE), .setImm .lhi .a0 (.address 1)] := by
  obtain ⟨image, assembled⟩ : ∃ image, assemble .sample .sample = .ok image := ⟨_, rfl⟩
  have block : (assemble .sample .sample).map
      (fun image => (image.block 1).map PlacedInstruction.instruction) =
        .ok [.form (.loadImm .li .a0 (.address 0xFFFE)),
          .form (.setImm .lhi .a0 (.address 1))] := rfl
  rw [assembled] at block
  obtain ⟨form, forms, isForm, -, same, links⟩ :=
    assemble_references assembled (rfl : Program.sample.instructions[1]? = some _)
  cases isForm
  have evaluated : forms = [.loadImm .li .a0 (.address 0xFFFE), .setImm .lhi .a0 (.address 1)] := by
    apply List.map_injective_iff.mpr fun _ _ => Instruction.form.inj
    exact same.symm.trans (Except.ok.inj block)
  exact ⟨image, assembled, rfl, evaluated ▸ links⟩

end Assembler
