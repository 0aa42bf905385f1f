import Assembler.Proofs.Correspondence
import Assembler.Proofs.Grammar
import Assembler.Proofs.Numeral
import Assembler.Proofs.Outcome

/-!
# Reading follows the grammar

For every reader of a part of a document, the values that it accepts and what it makes of them are
those of the grammar. The main result is `Program.ofJson_grammar`: a document is read if and only if
it conforms to the grammar, and then as the program that it describes.
-/

namespace Assembler

namespace Document

variable {entry : List (Text × Json)} {location : Location}

/-! ## Labels, lists, literals and data -/

theorem readLabel_eq_ok_iff {label : Option Text} :
    readLabel entry location = .ok label ↔ LabelIs entry label := by
  constructor
  · intro read
    unfold readLabel at read
    split at read
    · rename_i missing
      cases read
      exact .absent missing
    · rename_i given
      cases read
      exact .null given
    · rename_i name given
      split at read
      · cases read
      · rename_i nonempty
        cases read
        exact .named given nonempty
    · cases read
  · rintro (missing | given | ⟨given, nonempty⟩)
    · rw [readLabel, missing]
    · rw [readLabel, given]
    · rw [readLabel, given]
      exact if_neg nonempty

theorem listField_eq_ok_iff {key : Text} {fields : List (Text × Json)} {refusal : Error}
    {items : List Json} : listField key fields refusal = .ok items ↔ ListIs key fields items := by
  constructor
  · intro read
    unfold listField at read
    split at read
    · rename_i missing
      cases read
      exact .absent missing
    · rename_i given
      cases read
      exact .given given
    · cases read
  · rintro (missing | given)
    · rw [listField, missing]
    · rw [listField, given]

theorem readLiteral_eq_ok_iff {value : Json} {l : Literal} :
    readLiteral value location = .ok l ↔ LiteralIs value l := by
  constructor
  · intro read
    unfold readLiteral at read
    split at read
    · exact .text (Outcome.mapError_eq_ok_iff.mp read)
    · rename_i n
      cases short : Text.isWritable n with
      | true =>
        rw [Text.decimal?_of_isWritable short] at read
        have parsed := Outcome.mapError_eq_ok_iff.mp read
        rw [Literal.parse_decimal short] at parsed
        cases parsed
        exact .integer short
      | false =>
        rw [Text.decimal?_of_not_isWritable short] at read
        cases read
    · cases read
  · intro literal
    unfold readLiteral
    cases literal with
    | integer short =>
      simp only [Text.decimal?_of_isWritable short]
      exact Outcome.mapError_eq_ok_iff.mpr (Literal.parse_decimal short)
    | text read => exact Outcome.mapError_eq_ok_iff.mpr read

theorem readLiterals_eq_ok_iff {values : List Json} {ls : List Literal} :
    readLiterals location values = .ok ls ↔ List.Forall₂ LiteralIs values ls := by
  induction values generalizing ls with
  | nil => simp [readLiterals, eq_comm]
  | cons value rest ih =>
    rw [readLiterals, List.forall₂_cons_left_iff]
    constructor
    · intro read
      split at read
      · cases read
      · rename_i l first
        split at read
        · cases read
        · rename_i others later
          cases read
          exact ⟨l, others, readLiteral_eq_ok_iff.mp first, ih.mp later, rfl⟩
    · rintro ⟨l, others, first, later, rfl⟩
      rw [readLiteral_eq_ok_iff.mpr first]
      simp only [ih.mpr later]

theorem listKind?_eq_some_iff {name : Text} {kind : ListKind} :
    listKind? name = some kind ↔ name = kind.name := by
  unfold listKind?
  cases kind <;> simp only [ListKind.name] <;> grind

theorem listKind_name_ne_block (k : ListKind) : Text.ofString k.name ≠ "block" := by
  cases k <;> decide

theorem readList_eq_ok_iff {kind : ListKind} {element : Element} :
    readList kind entry location = .ok element ↔
      ∃ values ls, Json.field? "values" entry = some (.array values) ∧ values ≠ [] ∧
        List.Forall₂ LiteralIs values ls ∧ element = .list kind (ls.map .numeral) := by
  constructor
  · intro read
    unfold readList at read
    split at read
    · rename_i value rest given
      obtain ⟨ls, literals, rfl⟩ := Outcome.map_eq_ok_iff.mp read
      exact ⟨value :: rest, ls, given, List.cons_ne_nil value rest,
        readLiterals_eq_ok_iff.mp literals, rfl⟩
    · cases read
  · rintro ⟨values, ls, given, nonempty, literals, rfl⟩
    cases values with
    | nil => exact absurd rfl nonempty
    | cons value rest =>
      rw [readList, given]
      exact Outcome.map_eq_ok_iff.mpr ⟨ls, readLiterals_eq_ok_iff.mpr literals, rfl⟩

theorem readElement_eq_ok_iff {element : Element} :
    readElement entry location = .ok element ↔ ElementIs entry element := by
  constructor
  · intro read
    unfold readElement at read
    split at read
    · rename_i name kind
      have named : Json.field? "kind" entry = some (.string name) := by
        cases given : Json.field? "kind" entry with
        | none => simp [given] at kind
        | some value => simpa [given] using kind
      split at read
      · rename_i block
        subst block
        split at read
        · cases read
        · rename_i size given
          obtain ⟨l, literal, rfl⟩ := Outcome.map_eq_ok_iff.mp read
          exact .block named given (readLiteral_eq_ok_iff.mp literal)
      · split at read
        · rename_i k found
          rw [listKind?_eq_some_iff] at found
          subst found
          obtain ⟨values, ls, given, nonempty, literals, rfl⟩ := readList_eq_ok_iff.mp read
          exact .list named given nonempty literals
        · cases read
    · cases read
    · cases read
    · cases read
  · rintro (⟨kind, given, literal⟩ | ⟨kind, given, nonempty, literals⟩)
    · simp only [readElement, kind, Option.getD_some, if_true, given]
      exact Outcome.map_eq_ok_iff.mpr ⟨_, readLiteral_eq_ok_iff.mpr literal, rfl⟩
    · rename_i k values ls
      simp only [readElement, kind, Option.getD_some, listKind_name_ne_block k, if_false,
        listKind?_eq_some_iff.mpr rfl]
      exact readList_eq_ok_iff.mpr ⟨values, ls, given, nonempty, literals, rfl⟩

theorem readData_eq_ok_iff {value : Json} {statement : Statement Element} :
    readData value location = .ok statement ↔ DataIs value statement := by
  constructor
  · intro read
    unfold readData at read
    split at read
    · rename_i entry
      split at read
      · cases read
      · rename_i label labelled
        obtain ⟨element, found, rfl⟩ := Outcome.map_eq_ok_iff.mp read
        exact ⟨entry, rfl, readElement_eq_ok_iff.mp found, readLabel_eq_ok_iff.mp labelled⟩
    · cases read
  · rintro ⟨entry, rfl, element, label⟩
    simp only [readData, readLabel_eq_ok_iff.mpr label]
    exact Outcome.map_eq_ok_iff.mpr ⟨_, readElement_eq_ok_iff.mpr element, rfl⟩

/-! ## Forms -/

/-- Whether an argument is of the kind that a position takes. -/
def Argument.Suits : OperandKind → Argument → Prop
  | .register, .register _ | .literal, .literal _ | .identifier, .identifier _
  | .target, .literal _ | .target, .identifier _ => True
  | _, _ => False

/-- The field that an argument becomes. -/
def Argument.field (kind : OperandKind) : Argument → Field
  | .register r => .register r
  | .literal l => .operand (if kind = .target then .fixed (.numeral l) else .numeral l)
  | .identifier name => .operand (.label name)

section

variable {kinds : List OperandKind} {arguments : List Argument}

theorem Argument.of_suits_register
    (suits : List.Forall₂ Argument.Suits (.register :: kinds) arguments) :
    ∃ r rest, arguments = .register r :: rest ∧ List.Forall₂ Argument.Suits kinds rest := by
  obtain ⟨a, rest, first, others, rfl⟩ := List.forall₂_cons_left_iff.mp suits
  cases a with
  | register r => exact ⟨r, rest, rfl, others⟩
  | literal | identifier => cases first

theorem Argument.of_suits_literal
    (suits : List.Forall₂ Argument.Suits (.literal :: kinds) arguments) :
    ∃ l rest, arguments = .literal l :: rest ∧ List.Forall₂ Argument.Suits kinds rest := by
  obtain ⟨a, rest, first, others, rfl⟩ := List.forall₂_cons_left_iff.mp suits
  cases a with
  | literal l => exact ⟨l, rest, rfl, others⟩
  | register | identifier => cases first

theorem Argument.of_suits_identifier
    (suits : List.Forall₂ Argument.Suits (.identifier :: kinds) arguments) :
    ∃ name rest, arguments = .identifier name :: rest ∧
      List.Forall₂ Argument.Suits kinds rest := by
  obtain ⟨a, rest, first, others, rfl⟩ := List.forall₂_cons_left_iff.mp suits
  cases a with
  | identifier name => exact ⟨name, rest, rfl, others⟩
  | register | literal => cases first

theorem Argument.of_suits_target
    (suits : List.Forall₂ Argument.Suits (.target :: kinds) arguments) :
    ∃ a target rest, arguments = a :: rest ∧ a.target? = some target ∧
      a.field .target = .operand target ∧ List.Forall₂ Argument.Suits kinds rest := by
  obtain ⟨a, rest, first, others, rfl⟩ := List.forall₂_cons_left_iff.mp suits
  cases a with
  | literal l => exact ⟨_, _, rest, rfl, rfl, rfl, others⟩
  | identifier name => exact ⟨_, _, rest, rfl, rfl, rfl, others⟩
  | register => cases first

end

/-- Arguments of the kinds that an opcode takes make a form for the opcode, with their fields in
order. -/
theorem form?_of_suits {op : Opcode} {arguments : List Argument}
    (suits : List.Forall₂ Argument.Suits op.operands arguments) :
    ∃ form, form? op arguments = some form ∧ form.opcode = op ∧ form.SuitsOpcode ∧
      form.fields.map Prod.snd = List.zipWith Argument.field op.operands arguments := by
  -- The class fixes the kinds, the kinds fix the arguments, and these pick the branch of `form?`.
  unfold Opcode.operands at suits ⊢
  cases inClass : op.instructionClass <;> simp only [inClass] at suits ⊢
  case alu | flop =>
    obtain ⟨rd, _, rfl, afterFirst⟩ := Argument.of_suits_register suits
    obtain ⟨rs, _, rfl, afterSecond⟩ := Argument.of_suits_register afterFirst
    obtain ⟨rt, _, rfl, afterThird⟩ := Argument.of_suits_register afterSecond
    cases afterThird
    simp only [form?, inClass, Option.some.injEq, exists_eq_left']
    exact ⟨rfl, inClass, rfl⟩
  case immSigned | immUnsigned =>
    obtain ⟨rd, _, rfl, afterFirst⟩ := Argument.of_suits_register suits
    obtain ⟨rs, _, rfl, afterSecond⟩ := Argument.of_suits_register afterFirst
    obtain ⟨l, _, rfl, afterThird⟩ := Argument.of_suits_literal afterSecond
    cases afterThird
    simp only [form?, inClass, Option.some.injEq, exists_eq_left']
    exact ⟨rfl, inClass, rfl⟩
  case dataShuffle =>
    obtain ⟨rd, _, rfl, afterFirst⟩ := Argument.of_suits_register suits
    obtain ⟨rs, _, rfl, afterSecond⟩ := Argument.of_suits_register afterFirst
    cases afterSecond
    simp only [form?, inClass, Option.some.injEq, exists_eq_left']
    exact ⟨rfl, inClass, rfl⟩
  case loadImm | setImm =>
    obtain ⟨rd, _, rfl, afterFirst⟩ := Argument.of_suits_register suits
    obtain ⟨l, _, rfl, afterSecond⟩ := Argument.of_suits_literal afterFirst
    cases afterSecond
    simp only [form?, inClass, Option.some.injEq, exists_eq_left']
    exact ⟨rfl, inClass, rfl⟩
  case simple =>
    cases suits
    simp only [form?, inClass, Option.some.injEq, exists_eq_left']
    exact ⟨rfl, inClass, rfl⟩
  case branch =>
    obtain ⟨rs, _, rfl, afterFirst⟩ := Argument.of_suits_register suits
    obtain ⟨a, target, _, rfl, found, field, afterSecond⟩ := Argument.of_suits_target afterFirst
    cases afterSecond
    simp only [form?, inClass, found, Option.map_some, Option.some.injEq, exists_eq_left']
    exact ⟨rfl, inClass, by rw [List.zipWith, List.zipWith, field]; rfl⟩
  case jumpReg =>
    obtain ⟨rs, _, rfl, afterFirst⟩ := Argument.of_suits_register suits
    cases afterFirst
    simp only [form?, inClass, Option.some.injEq, exists_eq_left']
    exact ⟨rfl, inClass, rfl⟩
  case loadStore =>
    obtain ⟨rd, _, rfl, afterFirst⟩ := Argument.of_suits_register suits
    obtain ⟨l, _, rfl, afterSecond⟩ := Argument.of_suits_literal afterFirst
    obtain ⟨rbase, _, rfl, afterThird⟩ := Argument.of_suits_register afterSecond
    cases afterThird
    simp only [form?, inClass, Option.some.injEq, exists_eq_left']
    exact ⟨rfl, inClass, rfl⟩
  case jump =>
    obtain ⟨a, target, _, rfl, found, field, afterFirst⟩ := Argument.of_suits_target suits
    cases afterFirst
    simp only [form?, inClass, found, Option.map_some, Option.some.injEq, exists_eq_left']
    exact ⟨rfl, inClass, by rw [List.zipWith, field]; rfl⟩
  case pseudo =>
    -- The class does not tell the shape here, so the opcodes are taken one by one.
    cases op <;> try cases inClass
    case push | pop =>
      obtain ⟨rd, _, rfl, afterFirst⟩ := Argument.of_suits_register suits
      cases afterFirst
      exact ⟨_, rfl, rfl, rfl, rfl⟩
    case lwi =>
      obtain ⟨rd, _, rfl, afterFirst⟩ := Argument.of_suits_register suits
      obtain ⟨l, _, rfl, afterSecond⟩ := Argument.of_suits_literal afterFirst
      cases afterSecond
      exact ⟨_, rfl, rfl, rfl, rfl⟩
    case lda | lia =>
      obtain ⟨rd, _, rfl, afterFirst⟩ := Argument.of_suits_register suits
      obtain ⟨name, _, rfl, afterSecond⟩ := Argument.of_suits_identifier afterFirst
      cases afterSecond
      exact ⟨_, rfl, rfl, by simp [Form.SuitsOpcode], rfl⟩

/-! ## Operands -/

section

variable {value : Json} {a : Argument}

theorem readKeyed_register_eq_ok_iff :
    readKeyed "register" value location = .ok a ↔
      ∃ token r, value = .string token ∧ (Text.Spells token r.name ∨ Text.Spells token r.text) ∧
        a = .register r := by
  unfold readKeyed
  rw [if_pos rfl]
  constructor
  · intro read
    split at read
    · rename_i token
      split at read
      · rename_i r found
        cases read
        exact ⟨token, r, rfl, Register.ofToken?_eq_some_iff.mp found, rfl⟩
      · cases read
    · cases read
  · rintro ⟨token, r, rfl, named, rfl⟩
    simp only [Register.ofToken?_eq_some_iff.mpr named]

theorem readKeyed_literal_eq_ok_iff :
    readKeyed "literal" value location = .ok a ↔ ∃ l, LiteralIs value l ∧ a = .literal l := by
  unfold readKeyed
  rw [if_neg (by decide), if_pos rfl, Outcome.map_eq_ok_iff]
  simp only [readLiteral_eq_ok_iff]

theorem readKeyed_identifier_eq_ok_iff :
    readKeyed "identifier" value location = .ok a ↔
      ∃ name, value = .string name ∧ name ≠ [] ∧ a = .identifier name := by
  unfold readKeyed
  rw [if_neg (by decide), if_neg (by decide)]
  constructor
  · intro read
    split at read
    · rename_i name
      split at read
      · cases read
      · rename_i nonempty
        cases read
        exact ⟨name, rfl, nonempty, rfl⟩
    · cases read
  · rintro ⟨name, rfl, nonempty, rfl⟩
    simp only [nonempty, if_false]

theorem operand_of_readOperand {op : Opcode} {kind : OperandKind}
    (read : readOperand op kind value location = .ok a) :
    a.Suits kind ∧ OperandIs kind value (a.field kind) := by
  unfold readOperand at read
  split at read
  · rename_i key value
    split at read
    · rename_i accepted
      cases kind with
      | register =>
        obtain rfl : key = "register" := by simpa [accepts] using accepted
        obtain ⟨token, r, rfl, named, rfl⟩ := readKeyed_register_eq_ok_iff.mp read
        exact ⟨trivial, .register named⟩
      | literal =>
        obtain rfl : key = "literal" := by simpa [accepts] using accepted
        obtain ⟨l, literal, rfl⟩ := readKeyed_literal_eq_ok_iff.mp read
        exact ⟨trivial, .literal literal⟩
      | identifier =>
        obtain rfl : key = "identifier" := by simpa [accepts] using accepted
        obtain ⟨name, rfl, nonempty, rfl⟩ := readKeyed_identifier_eq_ok_iff.mp read
        exact ⟨trivial, .identifier nonempty⟩
      | target =>
        have either : key = "literal" ∨ key = "identifier" := by simpa [accepts] using accepted
        rcases either with rfl | rfl
        · obtain ⟨l, literal, rfl⟩ := readKeyed_literal_eq_ok_iff.mp read
          exact ⟨trivial, .address literal⟩
        · obtain ⟨name, rfl, nonempty, rfl⟩ := readKeyed_identifier_eq_ok_iff.mp read
          exact ⟨trivial, .label nonempty⟩
    · cases read
  · cases read

theorem readOperand_of_operand (op : Opcode) (location : Location) {kind : OperandKind}
    {field : Field} (operand : OperandIs kind value field) :
    ∃ a, readOperand op kind value location = .ok a ∧ a.Suits kind ∧ a.field kind = field := by
  cases operand with
  | register named =>
    exact ⟨_, readKeyed_register_eq_ok_iff.mpr ⟨_, _, rfl, named, rfl⟩, trivial, rfl⟩
  | literal literal =>
    exact ⟨_, readKeyed_literal_eq_ok_iff.mpr ⟨_, literal, rfl⟩, trivial, rfl⟩
  | identifier nonempty =>
    exact ⟨_, readKeyed_identifier_eq_ok_iff.mpr ⟨_, rfl, nonempty, rfl⟩, trivial, rfl⟩
  | address literal =>
    exact ⟨_, readKeyed_literal_eq_ok_iff.mpr ⟨_, literal, rfl⟩, trivial, rfl⟩
  | label nonempty =>
    exact ⟨_, readKeyed_identifier_eq_ok_iff.mpr ⟨_, rfl, nonempty, rfl⟩, trivial, rfl⟩

end

theorem OperandsAre.length_eq {kinds : List OperandKind} {values : List Json}
    {fields : List Field} (operands : OperandsAre kinds values fields) :
    values.length = kinds.length := by
  induction operands with
  | nil => rfl
  | cons _ _ ih => rw [List.length_cons, List.length_cons, ih]

theorem operands_of_readOperands {op : Opcode} {kinds : List OperandKind} {values : List Json}
    {arguments : List Argument} (same : values.length = kinds.length)
    (read : readOperands op location kinds values = .ok arguments) :
    List.Forall₂ Argument.Suits kinds arguments ∧
      OperandsAre kinds values (List.zipWith Argument.field kinds arguments) := by
  induction kinds generalizing values arguments with
  | nil =>
    obtain rfl := List.eq_nil_of_length_eq_zero same
    cases read
    exact ⟨.nil, .nil⟩
  | cons kind kinds ih =>
    cases values with
    | nil => cases same
    | cons value values =>
      simp only [readOperands] at read
      split at read
      · cases read
      · rename_i argument first
        split at read
        · cases read
        · rename_i later others
          cases read
          have operand := operand_of_readOperand first
          have operands := ih (Nat.succ.inj same) others
          exact ⟨.cons operand.1 operands.1, .cons operand.2 operands.2⟩

theorem readOperands_of_operands (op : Opcode) (location : Location) {kinds : List OperandKind}
    {values : List Json} {fields : List Field} (operands : OperandsAre kinds values fields) :
    ∃ arguments, readOperands op location kinds values = .ok arguments ∧
      List.Forall₂ Argument.Suits kinds arguments ∧
      List.zipWith Argument.field kinds arguments = fields := by
  induction operands with
  | nil => exact ⟨[], rfl, .nil, rfl⟩
  | cons first _ ih =>
    obtain ⟨a, read, suits, rfl⟩ := readOperand_of_operand op location first
    obtain ⟨later, others, suitLater, rfl⟩ := ih
    refine ⟨a :: later, ?_, .cons suits suitLater, rfl⟩
    simp only [readOperands, read, others]

/-! ## Instructions -/

theorem operation_of_readForm {form : Form} (read : readForm entry location = .ok form) :
    form.SuitsOpcode ∧ OperationIs entry form.opcode (form.fields.map Prod.snd) := by
  unfold readForm at read
  split at read
  · rename_i text mnemonic
    split at read
    · cases read
    · rename_i op named
      split at read
      · cases read
      · rename_i values listed
        split at read
        · cases read
        · rename_i counted
          split at read
          · cases read
          · rename_i arguments found
            -- The count makes sure that no operand is left over, so the arguments suit the opcode.
            obtain ⟨suits, operands⟩ := operands_of_readOperands (not_not.mp counted) found
            obtain ⟨made, formed, rfl, suitsOpcode, fields⟩ := form?_of_suits suits
            rw [formed] at read
            cases read
            refine ⟨suitsOpcode, ⟨text, mnemonic, Opcode.ofMnemonic?_eq_some_iff.mp named⟩,
              values, listField_eq_ok_iff.mp listed, ?_⟩
            rw [fields]
            exact operands
  · cases read

theorem readForm_of_operation (location : Location) {op : Opcode} {fields : List Field}
    (operation : OperationIs entry op fields) :
    ∃ form, readForm entry location = .ok form ∧ form.opcode = op ∧ form.SuitsOpcode ∧
      form.fields.map Prod.snd = fields := by
  obtain ⟨⟨text, mnemonic, spelled⟩, values, listed, operands⟩ := operation
  obtain ⟨arguments, read, suits, rfl⟩ := readOperands_of_operands op location operands
  obtain ⟨form, formed, sameOpcode, suitsOpcode, sameFields⟩ := form?_of_suits suits
  refine ⟨form, ?_, sameOpcode, suitsOpcode, sameFields⟩
  simp only [readForm, mnemonic, Opcode.ofMnemonic?_eq_some_iff.mpr spelled, operandList,
    listField_eq_ok_iff.mpr listed, operands.length_eq, ne_eq, not_true_eq_false, if_false, read,
    formed]

theorem readForm_eq_ok_iff {form : Form} :
    readForm entry location = .ok form ↔
      form.SuitsOpcode ∧ OperationIs entry form.opcode (form.fields.map Prod.snd) := by
  constructor
  · exact operation_of_readForm
  · rintro ⟨suits, operation⟩
    obtain ⟨made, read, sameOpcode, suitsMade, sameFields⟩ :=
      readForm_of_operation location operation
    rw [read, Form.eq_of_fields suitsMade suits sameOpcode sameFields]

theorem readInstruction_eq_ok_iff {value : Json} {statement : Statement Instruction} :
    readInstruction value location = .ok statement ↔ InstructionIs value statement := by
  constructor
  · intro read
    unfold readInstruction at read
    split at read
    · rename_i entry
      split at read
      · cases read
      · rename_i form found
        obtain ⟨label, labelled, rfl⟩ := Outcome.map_eq_ok_iff.mp read
        obtain ⟨suits, operation⟩ := readForm_eq_ok_iff.mp found
        exact ⟨entry, form, rfl, rfl, suits, operation, readLabel_eq_ok_iff.mp labelled⟩
    · cases read
  · rintro ⟨entry, form, rfl, body, suits, operation, label⟩
    simp only [readInstruction, readForm_eq_ok_iff.mpr ⟨suits, operation⟩]
    refine Outcome.map_eq_ok_iff.mpr ⟨_, readLabel_eq_ok_iff.mpr label, ?_⟩
    rw [← body]

/-- The entries of the grammar describe statements. -/
theorem isInstruction_iff {value : Json} :
    IsInstruction value ↔ ∃ statement, InstructionIs value statement := by
  constructor
  · rintro ⟨entry, op, fields, label, rfl, operation, labelled⟩
    -- The form is the same wherever the entry stands.
    obtain ⟨form, -, rfl, suits, rfl⟩ :=
      readForm_of_operation ⟨.instructions, 0⟩ operation
    exact ⟨⟨.form form, label⟩, entry, form, rfl, rfl, suits, operation, labelled⟩
  · rintro ⟨⟨_, label⟩, entry, form, rfl, -, -, operation, labelled⟩
    exact ⟨entry, form.opcode, _, label, rfl, operation, labelled⟩

theorem isData_iff {value : Json} : IsData value ↔ ∃ statement, DataIs value statement := by
  constructor
  · rintro ⟨entry, element, label, rfl, described, labelled⟩
    exact ⟨⟨element, label⟩, entry, rfl, described, labelled⟩
  · rintro ⟨⟨element, label⟩, entry, rfl, described, labelled⟩
    exact ⟨entry, element, label, rfl, described, labelled⟩

/-! ## Documents -/

theorem readEntries_eq_ok_iff {α : Type} {read : Json → Location → Except Error α}
    {R : Json → α → Prop}
    (each : ∀ value location item, read value location = .ok item ↔ R value item)
    {segment : Segment} {index : Nat} {values : List Json} {items : List α} :
    readEntries read segment index values = .ok items ↔ List.Forall₂ R values items := by
  induction values generalizing index items with
  | nil => simp [readEntries, eq_comm]
  | cons value rest ih =>
    rw [readEntries, List.forall₂_cons_left_iff]
    constructor
    · intro done
      split at done
      · cases done
      · rename_i item first
        split at done
        · cases done
        · rename_i others later
          cases done
          exact ⟨item, others, (each _ _ _).mp first, ih.mp later, rfl⟩
    · rintro ⟨item, others, first, later, rfl⟩
      rw [(each _ _ _).mpr first]
      simp only [ih.mpr later]

theorem readEntries_data_eq_ok_iff {values : List Json} {statements : List (Statement Element)} :
    readEntries readData .data 0 values = .ok statements ↔
      List.Forall₂ DataIs values statements := by
  apply readEntries_eq_ok_iff
  intro value location statement
  exact readData_eq_ok_iff

theorem readEntries_instructions_eq_ok_iff {values : List Json}
    {statements : List (Statement Instruction)} :
    readEntries readInstruction .instructions 0 values = .ok statements ↔
      List.Forall₂ InstructionIs values statements := by
  apply readEntries_eq_ok_iff
  intro value location statement
  exact readInstruction_eq_ok_iff

theorem unknownKeys_eq_nil_iff {fields : List (Text × Json)} :
    unknownKeys fields = [] ↔
      ∀ key ∈ fields.map Prod.fst, key = "data" ∨ key = "instructions" := by
  have sorted := List.mergeSort_perm
    ((fields.map Prod.fst).filter fun key : Text => key ≠ "data" ∧ key ≠ "instructions")
    Text.precedes
  -- Sorting keeps the number of keys.
  have empty : unknownKeys fields = [] ↔ ((fields.map Prod.fst).filter
      fun key : Text => key ≠ "data" ∧ key ≠ "instructions") = [] := by
    rw [← List.length_eq_zero_iff, ← List.length_eq_zero_iff, unknownKeys, sorted.length_eq]
  rw [empty, List.filter_eq_nil_iff]
  simp only [ne_eq, decide_eq_true_eq, not_and_or, not_not]

/-- A document is read as the program that it describes. -/
theorem ofJson_eq_ok_iff {document : Json} {program : Program} :
    Program.ofJson document = .ok program ↔ Describes document program := by
  constructor
  · intro read
    unfold Program.ofJson at read
    split at read
    · rename_i fields
      split at read
      · cases read
      · rename_i known
        split at read
        · cases read
        · cases read
        · rename_i data instructions dataListed instructionsListed
          split at read
          · cases read
          · rename_i statements dataRead
            obtain ⟨forms, instructionsRead, rfl⟩ := Outcome.map_eq_ok_iff.mp read
            exact ⟨data, instructions,
              ⟨fields, rfl, unknownKeys_eq_nil_iff.mp (not_not.mp known),
                listField_eq_ok_iff.mp dataListed, listField_eq_ok_iff.mp instructionsListed⟩,
              readEntries_data_eq_ok_iff.mp dataRead,
              readEntries_instructions_eq_ok_iff.mp instructionsRead⟩
    · cases read
  · rintro ⟨data, instructions, ⟨fields, rfl, known, dataListed, instructionsListed⟩,
      dataDescribed, instructionsDescribed⟩
    have dataFound : segmentList fields .data = .ok data := listField_eq_ok_iff.mpr dataListed
    have instructionsFound : segmentList fields .instructions = .ok instructions :=
      listField_eq_ok_iff.mpr instructionsListed
    simp only [Program.ofJson, unknownKeys_eq_nil_iff.mpr known, ne_eq, not_true_eq_false,
      if_false, dataFound, instructionsFound,
      readEntries_data_eq_ok_iff.mpr dataDescribed]
    exact Outcome.map_eq_ok_iff.mpr
      ⟨_, readEntries_instructions_eq_ok_iff.mpr instructionsDescribed, rfl⟩

end Document

end Assembler
