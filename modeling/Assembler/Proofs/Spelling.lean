import Assembler.Proofs.Agreement
import Assembler.Proofs.Consistency

/-!
# Spelling

Of a number in a program only its value in the field counts in which it stands. A number may be
written in any base, with any text, or be a computed one, which counts as the decimal literal of its
value. Two programs that differ in this way only are both assembled or both refused, and their
images are written as the same document. Computed numbers and literals are checked by different
rules, so in each kind of field the rules have to be compared.
-/

namespace Assembler

open Outcome (Agree)

/-! ## Numbers in fields -/

/-- The literal that a number counts as. -/
def Operand.literal? : Operand → Option Literal
  | .numeral l => some l
  | .number n => some (.ofInt n)
  | _ => none

/-- The value of a literal in a field, if it fits. -/
def Literal.value? (l : Literal) (width : Nat) (signedness : Signedness) : Option Int :=
  (l.interpret width signedness).toOption

/-- Two operands are the same, or numbers that a field takes at the same value or both refuses. -/
inductive Operand.SameIn (width : Nat) (signedness : Signedness) : Operand → Operand → Prop
  | refl (o : Operand) : SameIn width signedness o o
  | numbers {o other : Operand} {l m : Literal} (first : o.literal? = some l)
      (second : other.literal? = some m)
      (values : l.value? width signedness = m.value? width signedness) :
    SameIn width signedness o other

variable {width : Nat} {signedness : Signedness} {location : Option Location}

/-- The literal of a computed number is taken by the fields whose range holds the number. -/
theorem Literal.value?_ofInt (n : Int) (width : Nat) (signedness : Signedness) :
    (ofInt n).value? width signedness =
      if (decimalRange width signedness).holds n then
        some (if signedness = .either then Bits.toUnsigned n width else n)
      else none := by
  have decimal : (ofInt n).isMarked = false := rfl
  simp only [value?, interpret, decimal, signedValue_ofInt, Bool.false_eq_true, if_false]
  by_cases inside : (decimalRange width signedness).holds n = true
  · simp only [inside, if_true]
    split <;> rfl
  · simp only [inside, Bool.false_eq_true, if_false]
    rfl

theorem Operand.isNumber_of_literal? {o : Operand} {l : Literal}
    (isLiteral : o.literal? = some l) : o.isNumber = true := by
  cases o with
  | numeral | number => rfl
  | _ => cases isLiteral

/-- In a field that is signed or unsigned, the check of a computed number agrees with the reading
of its literal. -/
theorem Operand.fit_value (field : FieldWidth width) (single : signedness ≠ .either) {o : Operand}
    {l : Literal} (isLiteral : o.literal? = some l) :
    (o.fit width signedness location).toOption = l.value? width signedness := by
  cases o with
  | numeral m =>
    cases isLiteral
    rw [fit, interpretLiteral_eq field, Outcome.toOption_mapError]
    rfl
  | number n =>
    cases isLiteral
    simp only [fit, requireFitsAt, widthFor_of_fieldWidth field, Outcome.toOption_mapError,
      Literal.value?_ofInt, single, if_false, requireFits, Signedness.range_eq_decimalRange single]
    split <;> rfl
  | _ => cases isLiteral

/-- A data value is read as the literal that it counts as. -/
theorem Element.valueIn_value {kind : ListKind} {o : Operand} {l : Literal}
    (isLiteral : o.literal? = some l) :
    (valueIn kind location o).toOption = l.value? (8 * kind.width) .either := by
  have reads : ∀ m : Literal,
      (interpretLiteral m (8 * kind.width : Nat) .either location).toOption =
        m.value? (8 * kind.width) .either := by
    intro m
    rw [interpretLiteral_eq kind.fieldWidth, Outcome.toOption_mapError]
    rfl
  cases o with
  | numeral m =>
    cases isLiteral
    exact reads l
  | number n =>
    cases isLiteral
    by_cases writable : Text.isWritable n = true
    · simp only [valueIn, writable, if_true]
      exact reads _
    · -- A number that is too long to be written is out of range.
      have outside : ¬ (Literal.decimalRange (8 * kind.width) .either).holds n = true := by
        intro inside
        obtain ⟨low, high⟩ := Range.holds_iff.mp inside
        obtain ⟨least, -, most⟩ := Literal.decimalRange_small kind.fieldWidth .either
        exact writable (Text.isWritable_of_small (by omega) (by omega))
      simp [valueIn, writable, Literal.value?_ofInt, outside, Except.toOption]
  | _ => cases isLiteral

namespace Operand.SameIn

variable {o other : Operand}

theorem fit (field : FieldWidth width) (same : SameIn width signedness o other)
    (single : signedness ≠ .either) :
    (o.fit width signedness location).toOption =
      (other.fit width signedness location).toOption := by
  cases same with
  | refl => rfl
  | numbers first second values =>
    rw [fit_value field single first, fit_value field single second, values]

theorem checkImmediate (same : SameIn Bits.immediateWidth signedness o other)
    (single : signedness ≠ .either) :
    (o.checkImmediate signedness location).toOption =
      (other.checkImmediate signedness location).toOption := by
  simp only [Operand.checkImmediate, Outcome.toOption_map,
    same.fit FieldWidth.immediate single]

theorem checkLoad (same : SameIn Bits.immediateWidth signedness o other)
    (single : signedness ≠ .either) :
    (o.checkLoad signedness location).toOption =
      (other.checkLoad signedness location).toOption := by
  cases same with
  | refl => rfl
  | numbers first second values =>
    rw [Operand.checkLoad, Operand.checkLoad, isNumber_of_literal? first,
      isNumber_of_literal? second]
    exact (numbers first second values).checkImmediate single

end Operand.SameIn

/-! ## Forms -/

/-- Two forms that differ in the spelling of one number, each kind of number in its own field. -/
inductive Form.Respelled (w : WordSize) : Form → Form → Prop
  | refl (form : Form) : Respelled w form form
  | immSigned {op : Opcode} {rd rs : Register} {o other : Operand}
      (same : o.SameIn 16 .signed other) :
    Respelled w (.immSigned op rd rs o) (.immSigned op rd rs other)
  | immUnsigned {op : Opcode} {rd rs : Register} {o other : Operand}
      (same : o.SameIn 16 .unsigned other) :
    Respelled w (.immUnsigned op rd rs o) (.immUnsigned op rd rs other)
  | loadStore {op : Opcode} {rd rbase : Register} {o other : Operand}
      (same : o.SameIn 16 .signed other) :
    Respelled w (.loadStore op rd o rbase) (.loadStore op rd other rbase)
  | loadImm {op : Opcode} {rd : Register} {o other : Operand}
      (same : o.SameIn 16 .signed other) : Respelled w (.loadImm op rd o) (.loadImm op rd other)
  | setImm {op : Opcode} {rd : Register} {o other : Operand}
      (same : o.SameIn 16 .unsigned other) : Respelled w (.setImm op rd o) (.setImm op rd other)
  | branch {op : Opcode} {rs : Register} {o other : Operand}
      (same : o.SameIn w.bits .unsigned other) :
    Respelled w (.branch op rs (.fixed o)) (.branch op rs (.fixed other))
  | jump {op : Opcode} {o other : Operand} (same : o.SameIn w.bits .unsigned other) :
    Respelled w (.jump op (.fixed o)) (.jump op (.fixed other))
  | loadWord {rd : Register} {o other : Operand} (same : o.SameIn w.bits .signed other) :
    Respelled w (.loadWord rd o) (.loadWord rd other)

namespace Form.Respelled

variable {w : WordSize} {form other : Form}

theorem pseudoOpcode? (respelled : Respelled w form other) :
    other.pseudoOpcode? = form.pseudoOpcode? := by
  cases respelled <;> rfl

/-- The value decides the number of words, and so every address after them. -/
theorem wordCount (respelled : Respelled w form other) :
    (form.wordCount w.bits location).toOption = (other.wordCount w.bits location).toOption := by
  cases respelled with
  | loadWord same =>
    simp only [Form.wordCount, Outcome.toOption_map, same.fit w.fieldWidth (by decide)]
  | _ => rfl

theorem expand (respelled : Respelled w form other) :
    (form.expand w.bits location).toOption = (other.expand w.bits location).toOption := by
  cases respelled with
  | refl => rfl
  | immSigned same | immUnsigned same | loadStore same =>
    simp only [Form.expand, checkOperands, Outcome.toOption_map, same.checkImmediate (by decide)]
  | loadImm same | setImm same =>
    simp only [Form.expand, checkOperands, Outcome.toOption_map, same.checkLoad (by decide)]
  | branch same | jump same =>
    simp only [Form.expand, checkOperands, Operand.checkTarget, Outcome.toOption_map,
      same.fit w.fieldWidth (by decide)]
  | loadWord same =>
    simp only [Form.expand, Outcome.toOption_map, same.fit w.fieldWidth (by decide)]

end Form.Respelled

/-- Two instructions that differ in the spelling of one number. -/
inductive Instruction.Respelled (w : WordSize) : Instruction → Instruction → Prop
  | form {form other : Form} (same : form.Respelled w other) :
    Respelled w (.form form) (.form other)
  | foreign (thing : Foreign) : Respelled w (.foreign thing) (.foreign thing)

namespace Instruction.Respelled

variable {w : WordSize} {i other : Instruction}

theorem pseudoOpcode? (respelled : Respelled w i other) :
    other.pseudoOpcode? = i.pseudoOpcode? := by
  cases respelled with
  | form same => exact same.pseudoOpcode?
  | foreign => rfl

theorem wordCount (respelled : Respelled w i other) :
    (i.wordCount w.bits location).toOption = (other.wordCount w.bits location).toOption := by
  cases respelled with
  | form same => exact same.wordCount
  | foreign => rfl

theorem expand (respelled : Respelled w i other) :
    (i.expand w.bits location).toOption = (other.expand w.bits location).toOption := by
  cases respelled with
  | form same => exact same.expand
  | foreign => rfl

end Instruction.Respelled

/-! ## Data -/

/-- Two data elements that differ in the spelling of their numbers. -/
inductive Element.Respelled (w : WordSize) : Element → Element → Prop
  | block {o other : Operand} (same : o.SameIn w.bits .unsigned other) :
    Respelled w (.block o) (.block other)
  | list {kind : ListKind} {operands others : List Operand}
      (same : List.Forall₂ (Operand.SameIn (8 * kind.width) .either) operands others) :
    Respelled w (.list kind operands) (.list kind others)

namespace Element.Respelled

variable {w : WordSize} {element other : Element}

theorem kindName (respelled : Respelled w element other) : other.kindName = element.kindName := by
  cases respelled <;> rfl

theorem size (respelled : Respelled w element other) :
    (element.size w.bits location).toOption = (other.size w.bits location).toOption := by
  cases respelled with
  | block same => exact same.fit w.fieldWidth (by decide)
  | list same => simp only [Element.size, same.length_eq]

theorem values (respelled : Respelled w element other) :
    (element.values location).toOption = (other.values location).toOption := by
  cases respelled with
  | block => rfl
  | @list kind operands others same =>
    show (valuesIn kind location operands).toOption = (valuesIn kind location others).toOption
    induction same with
    | nil => rfl
    | @cons o again rest later first _ ih =>
      have head : (valueIn kind location o).toOption = (valueIn kind location again).toOption := by
        cases first with
        | refl => rfl
        | numbers first second values => rw [valueIn_value first, valueIn_value second, values]
      simp only [valuesIn]
      rcases (Agree.of_toOption head).cases with
        ⟨value, _, read, reread, rfl⟩ | ⟨e, d, read, reread, -⟩
      · rcases (Agree.of_toOption ih).cases with
          ⟨tail, _, reads, rereads, rfl⟩ | ⟨e, d, reads, rereads, -⟩
        · simp only [read, reread, reads, rereads]
        · simp only [read, reread, reads, rereads]
          rfl
      · simp only [read, reread]
        rfl

end Element.Respelled

/-! ## Programs -/

/-- Two statements with the same label and related bodies. -/
structure Statement.Respelled {α : Type} (bodies : α → α → Prop) (s other : Statement α) :
    Prop where
  label : other.label = s.label
  body : bodies s.body other.body

/-- Two programs that differ in the spelling of their numbers, on a machine with words of the given
size. -/
structure Program.Respelled (w : WordSize) (program other : Program) : Prop where
  data : List.Forall₂ (Statement.Respelled (Element.Respelled w)) program.data other.data
  instructions : List.Forall₂ (Statement.Respelled (Instruction.Respelled w))
    program.instructions other.instructions

/-- Two data elements that differ at most in the spelling of their numbers. -/
structure PlacedData.Respelled (d other : PlacedData) : Prop where
  frame : other = { d with element := other.element }
  kindName : other.element.kindName = d.element.kindName

theorem PlacedData.Respelled.json {d other : PlacedData} (respelled : d.Respelled other) :
    Image.dataJson other = Image.dataJson d := by
  rw [respelled.frame]
  simp only [Image.dataJson, respelled.kindName]

namespace Layout

variable {w : WordSize} {address : Int} {place : Location}

theorem placeData_respelled {statement other : Statement Element}
    (respelled : statement.Respelled (Element.Respelled w) other) :
    Agree (fun _ _ => True) (fun p q => q.1 = p.1 ∧ PlacedData.Respelled p.2 q.2)
      (placeData w address place statement) (placeData w address place other) := by
  have sizes : (statement.body.size w.bits place).toOption =
      (other.body.size w.bits place).toOption := respelled.body.size
  have lists : (statement.body.values place).toOption = (other.body.values place).toOption :=
    respelled.body.values
  simp only [placeData, respelled.label]
  rcases (Agree.of_toOption sizes).cases with
    ⟨size, _, sized, resized, rfl⟩ | ⟨e, d, sized, resized, -⟩
  · rcases (Agree.of_toOption lists).cases with
      ⟨values, _, valued, revalued, rfl⟩ | ⟨e, d, valued, revalued, -⟩
    · simp only [sized, resized, valued, revalued]
      exact .ok ⟨rfl, rfl, respelled.body.kindName⟩
    · simp only [sized, resized, valued, revalued]
      exact .error trivial
  · simp only [sized, resized]
    exact .error trivial

theorem placeInstruction_respelled {statement other : Statement Instruction}
    (respelled : statement.Respelled (Instruction.Respelled w) other) :
    Agree (fun _ _ => True) (fun p q => q.1 = p.1 ∧ p.2 = q.2)
      (placeInstruction w address place statement) (placeInstruction w address place other) := by
  have counts : (statement.body.wordCount w.bits place).toOption =
      (other.body.wordCount w.bits place).toOption := respelled.body.wordCount
  apply (Agree.of_toOption counts).map
  rintro count _ rfl
  exact ⟨rfl, rfl⟩

/-- The layouts of two programs that differ in the spelling of numbers have the same addresses and
the same table. -/
theorem build_respelled {program other : Program} {config : Config}
    (respelled : program.Respelled config.wordSize other) :
    Agree (fun _ _ => True) (Alike Eq PlacedData.Respelled) (build program config)
      (build other config) := by
  have labels : ∀ {α : Type} {bodies : α → α → Prop} {symbols table : SymbolTable}
      {statement again : Statement α} (address : Int) (place : Location), symbols = table →
      statement.Respelled bodies again →
      Agree (fun _ _ => True) Eq (defineLabel symbols statement.label address place)
        (defineLabel table again.label address place) := by
    intro α bodies symbols table statement again address place tables same
    rw [tables, same.label]
    exact .refl (fun _ => trivial) _
  exact build_agree (E := fun _ _ => True) (fun _ => trivial)
    ⟨labels, fun _ _ => placeData_respelled⟩ ⟨labels, fun _ _ => placeInstruction_respelled⟩ rfl
    respelled.data respelled.instructions

end Layout

theorem expandFrom_respelled {w : WordSize} (index : Nat)
    {statements others : List (Statement Instruction)} (addresses : List Int)
    (respelled : List.Forall₂ (Statement.Respelled (Instruction.Respelled w)) statements others) :
    (expandFrom w.bits index statements addresses).toOption =
      (expandFrom w.bits index others addresses).toOption := by
  induction respelled generalizing index addresses with
  | nil => rfl
  | @cons statement again rest later first _ ih =>
    cases addresses with
    | nil => rfl
    | cons address addresses =>
      have forms : (statement.body.expand w.bits (instructionLocation index)).toOption =
          (again.body.expand w.bits (instructionLocation index)).toOption := first.body.expand
      simp only [expandFrom, first.label, first.body.pseudoOpcode?]
      rcases (Agree.of_toOption forms).cases with
        ⟨block, _, expands, reexpands, rfl⟩ | ⟨e, d, expands, reexpands, -⟩
      · rcases (Agree.of_toOption (ih (index + 1) addresses)).cases with
          ⟨tail, _, tails, retails, rfl⟩ | ⟨e, d, tails, retails, -⟩
        · simp only [expands, reexpands, tails, retails]
        · simp only [expands, reexpands, tails, retails]
          rfl
      · simp only [expands, reexpands]
        rfl

/-- Only the values of numbers matter. Of two programs that differ in the spelling of numbers, one
is assembled if the other is, and both images are written as the same document. -/
theorem assemble_spelling {program other : Program} {config : Config}
    (respelled : program.Respelled config.wordSize other) :
    Agree (fun _ _ => True) (fun image again => again.toJson = image.toJson)
      (assemble program config) (assemble other config) := by
  rcases (Layout.build_respelled respelled).cases with
    ⟨layout, again, built, rebuilt, alike⟩ | ⟨stop, halt, built, rebuilt, -⟩
  · have expansion := expandFrom_respelled 0 layout.instructionAddresses respelled.instructions
    have addresses : again.instructionAddresses = layout.instructionAddresses := by
      rw [alike.rest]
    rw [← expandSegment, ← expandSegment] at expansion
    rcases (Agree.of_toOption expansion).cases with
      ⟨placed, _, expands, reexpands, rfl⟩ | ⟨e, d, expands, reexpands, -⟩
    · rw [← addresses] at reexpands
      obtain ⟨blocks, expanded, rfl⟩ := (expandSegment_eq_ok_iff built).mp expands
      obtain ⟨others, reexpanded, same⟩ := (expandSegment_eq_ok_iff rebuilt).mp reexpands
      have data : again.data.map Image.dataJson = layout.data.map Image.dataJson := by
        have pairs := alike.data.imp fun _ _ => PlacedData.Respelled.json
        rw [← List.forall₂_eq_eq_eq, List.forall₂_map_left_iff, List.forall₂_map_right_iff]
        exact pairs.flip
      rw [expanded.assemble_eq, reexpanded.assemble_eq, ← same, ← alike.symbols]
      refine (Agree.refl (fun _ => trivial) _).map ?_
      rintro instructions _ rfl
      rw [alike.rest]
      simp only [Image.toJson, Image.toJsonWith, Image.ofLayout, data]
    · simp only [assemble, built, rebuilt, expands, reexpands, addresses]
      exact .error trivial
  · simp only [assemble, built, rebuilt]
    exact .error trivial

/-- The sample program with computed numbers in most places. -/
def Program.computed : Program :=
  { data :=
      [⟨.block (.number 3), some "table"⟩,
        ⟨.list .short [.numeral ⟨.oct, 0xFFFF, false, "0o177777"⟩, .number (-1)], none⟩]
    instructions :=
      [⟨.form (.jump .jmp (.label "end")), some "start"⟩,
        ⟨.form (.loadAddress .lda .a0 (.label "table")), none⟩,
        ⟨.form (.loadWord .v0 (.number 0x12345678)), none⟩,
        ⟨.form (.push .v0), none⟩,
        ⟨.form (.branch .bez .v0 (.label "start")), none⟩,
        ⟨.form (.jump .jal (.fixed (.number 0x40))), some "end"⟩] }

theorem assemble_spelling_computed :
    (assemble Program.sample .sample).isOk = true ∧
    Agree (fun _ _ => True) (fun image again => again.toJson = image.toJson)
      (assemble Program.sample .sample) (assemble Program.computed .sample) := by
  refine ⟨by decide +kernel, assemble_spelling ⟨?_, ?_⟩⟩
  · refine .cons ⟨rfl, .block (.numbers rfl rfl (by decide +kernel))⟩ (.cons ⟨rfl, .list ?_⟩ .nil)
    exact .cons (.numbers rfl rfl (by decide +kernel))
      (.cons (.numbers rfl rfl (by decide +kernel)) .nil)
  · refine .cons ⟨rfl, .form (.refl _)⟩ (.cons ⟨rfl, .form (.refl _)⟩ (.cons ?_
      (.cons ⟨rfl, .form (.refl _)⟩ (.cons ⟨rfl, .form (.refl _)⟩ (.cons ?_ .nil)))))
    · exact ⟨rfl, .form (.loadWord (.numbers rfl rfl (by decide +kernel)))⟩
    · exact ⟨rfl, .form (.jump (.numbers rfl rfl (by decide +kernel)))⟩

end Assembler
