import Assembler.Document
import Assembler.Proofs.Expansion
import Mathlib.Data.List.Forall2

/-!
# The grammar of documents

What a document may look like, and what each part of it stands for, said without the code that
reads it. A relation such as `LiteralIs value l` holds if the value is of the grammar and describes
`l`. An instruction is described by its opcode and its fields: at most one form is made for the
opcode and has these fields (`Form.eq_of_fields`).
-/

namespace Assembler

/-! ## Names -/

/-- A token spells a name if it is the name, white space and case aside. -/
def Text.Spells (token : Text) (name : String) : Prop :=
  token.trim.upperAsciiText? = some name.toList

/-- If everything is found by its own name, a name finds only what it names. -/
theorem find?_name_eq_some_iff {α : Type} {all : List α} {name : α → String}
    (complete : ∀ a, a ∈ all) (found : ∀ a ∈ all, (all.find? fun b => name b = name a) = some a)
    {text : String} {a : α} : (all.find? fun b => name b = text) = some a ↔ text = name a := by
  constructor
  · intro first
    have named := List.find?_some first
    exact (of_decide_eq_true named).symm
  · rintro rfl
    exact found a (complete a)

theorem Opcode.mem_all (op : Opcode) : op ∈ all := by
  cases op <;> decide +kernel

theorem Opcode.ofName?_eq_some_iff {name : String} {op : Opcode} :
    ofName? name = some op ↔ name = op.name :=
  find?_name_eq_some_iff mem_all (by decide +kernel)

/-- Mnemonics are looked up by their names. -/
theorem Opcode.ofMnemonic?_eq_some_iff {mnemonic : Text} {op : Opcode} :
    ofMnemonic? mnemonic = some op ↔ Text.Spells mnemonic op.name := by
  unfold ofMnemonic? Text.Spells
  cases mnemonic.trim.upperAsciiText? with
  | none => simp
  | some letters =>
    rw [Opcode.ofName?_eq_some_iff, Option.some.injEq, ← String.toList_inj, String.toList_ofList]

theorem Register.mem_all (r : Register) : r ∈ all := by
  cases r <;> decide +kernel

theorem Register.ofName?_eq_some_iff {name : String} {r : Register} :
    ofName? name = some r ↔ name = r.name :=
  find?_name_eq_some_iff mem_all (by decide +kernel)

theorem Register.name_unmarked (r : Register) (letters : List Char) :
    r.name.toList ≠ '$' :: letters := by
  cases r <;> simp [Register.name]

theorem Register.toList_text (r : Register) : r.text.toList = '$' :: r.name.toList := by
  simp [Register.text]

/-- Registers are looked up by their names, with or without the mark. -/
theorem Register.ofToken?_eq_some_iff {token : Text} {r : Register} :
    ofToken? token = some r ↔ Text.Spells token r.name ∨ Text.Spells token r.text := by
  unfold ofToken? Text.Spells
  rw [r.toList_text]
  split
  · rename_i letters capitals
    rw [capitals, Register.ofName?_eq_some_iff, Option.some.injEq, Option.some.injEq,
      ← String.toList_inj, String.toList_ofList, List.cons.injEq]
    simp [(r.name_unmarked letters).symm]
  · rename_i letters unmarked capitals
    have other : letters ≠ '$' :: r.name.toList := by
      rintro rfl
      exact unmarked _ rfl
    rw [capitals, Register.ofName?_eq_some_iff, Option.some.injEq, Option.some.injEq,
      ← String.toList_inj, String.toList_ofList]
    simp [other]
  · rename_i capitals
    simp [capitals]

/-! ## The grammar -/

namespace Document

/-- The label of an entry: it is left out, null, or a name. -/
inductive LabelIs (entry : List (Text × Json)) : Option Text → Prop where
  | absent (missing : Json.field? "label" entry = none) : LabelIs entry none
  | null (given : Json.field? "label" entry = some .null) : LabelIs entry none
  | named {name : Text} (given : Json.field? "label" entry = some (.string name))
      (nonempty : name ≠ []) : LabelIs entry (some name)

/-- The literal of a value: an integer that is not too long to be written, or a text that can be
read. -/
inductive LiteralIs : Json → Literal → Prop where
  | integer {n : Int} (short : Text.isWritable n = true) : LiteralIs (.int n) (.ofInt n)
  | text {text : Text} {l : Literal} (read : Literal.parse text = .ok l) :
      LiteralIs (.string text) l

/-- A list that may be left out, and is empty then. -/
inductive ListIs (key : Text) (fields : List (Text × Json)) : List Json → Prop where
  | absent (missing : Json.field? key fields = none) : ListIs key fields []
  | given {items : List Json} (given : Json.field? key fields = some (.array items)) :
      ListIs key fields items

/-- The element of a data entry: a reserved area, or a list that is not empty. -/
inductive ElementIs (entry : List (Text × Json)) : Element → Prop where
  | block {size : Json} {l : Literal} (kind : Json.field? "kind" entry = some (.string "block"))
      (given : Json.field? "size" entry = some size) (literal : LiteralIs size l) :
      ElementIs entry (.block (.numeral l))
  | list {k : ListKind} {values : List Json} {ls : List Literal}
      (kind : Json.field? "kind" entry = some (.string k.name))
      (given : Json.field? "values" entry = some (.array values)) (nonempty : values ≠ [])
      (literals : List.Forall₂ LiteralIs values ls) :
      ElementIs entry (.list k (ls.map .numeral))

/-- The statement of a data entry. -/
def DataIs (value : Json) (statement : Statement Element) : Prop :=
  ∃ entry, value = .object entry ∧ ElementIs entry statement.body ∧
    LabelIs entry statement.label

/-- The field of an operand, by what its position takes. -/
inductive OperandIs : OperandKind → Json → Field → Prop where
  | register {token : Text} {r : Register}
      (named : Text.Spells token r.name ∨ Text.Spells token r.text) :
      OperandIs .register (.object [("register", .string token)]) (.register r)
  | literal {value : Json} {l : Literal} (literal : LiteralIs value l) :
      OperandIs .literal (.object [("literal", value)]) (.operand (.numeral l))
  | identifier {name : Text} (nonempty : name ≠ []) :
      OperandIs .identifier (.object [("identifier", .string name)]) (.operand (.label name))
  | address {value : Json} {l : Literal} (literal : LiteralIs value l) :
      OperandIs .target (.object [("literal", value)]) (.operand (.fixed (.numeral l)))
  | label {name : Text} (nonempty : name ≠ []) :
      OperandIs .target (.object [("identifier", .string name)]) (.operand (.label name))

/-- The fields of operands, one for each position. -/
inductive OperandsAre : List OperandKind → List Json → List Field → Prop where
  | nil : OperandsAre [] [] []
  | cons {kind : OperandKind} {value : Json} {field : Field} {kinds : List OperandKind}
      {values : List Json} {fields : List Field} (first : OperandIs kind value field)
      (others : OperandsAre kinds values fields) :
      OperandsAre (kind :: kinds) (value :: values) (field :: fields)

/-- The opcode and the fields of an instruction entry. -/
structure OperationIs (entry : List (Text × Json)) (op : Opcode) (fields : List Field) :
    Prop where
  mnemonic : ∃ text, Json.field? "mnemonic" entry = some (.string text) ∧ Text.Spells text op.name
  operands : ∃ values, ListIs "operands" entry values ∧ OperandsAre op.operands values fields

end Document

/-- A form that is made for its opcode. Only two opcodes load addresses. -/
def Form.SuitsOpcode : Form → Prop
  | .loadAddress op .. => op = .lda ∨ op = .lia
  | form => form.opcode.instructionClass = form.shape

theorem Form.SuitsOpcode.inClass {form : Form} (suits : form.SuitsOpcode) :
    form.opcode.instructionClass = form.shape := by
  cases form
  case loadAddress op rd target => rcases suits with rfl | rfl <;> rfl
  all_goals exact suits

/-- A form is determined by its opcode and its fields if it is made for the opcode. -/
theorem Form.eq_of_fields {f g : Form} (suitsF : f.SuitsOpcode) (suitsG : g.SuitsOpcode)
    (sameOpcode : f.opcode = g.opcode)
    (sameFields : f.fields.map Prod.snd = g.fields.map Prod.snd) : f = g := by
  have sameShape : f.shape = g.shape := by rw [← suitsF.inClass, ← suitsG.inClass, sameOpcode]
  cases f <;> cases g <;> cases sameShape <;>
    grind [SuitsOpcode, opcode, fields]

namespace Document

/-- The statement of an instruction entry: its form is made for the opcode and has the fields. -/
def InstructionIs (value : Json) (statement : Statement Instruction) : Prop :=
  ∃ entry form, value = .object entry ∧ statement.body = .form form ∧ form.SuitsOpcode ∧
    OperationIs entry form.opcode (form.fields.map Prod.snd) ∧ LabelIs entry statement.label

/-- A data entry of the grammar. -/
def IsData (value : Json) : Prop :=
  ∃ entry element label, value = .object entry ∧ ElementIs entry element ∧ LabelIs entry label

/-- An instruction entry of the grammar. -/
def IsInstruction (value : Json) : Prop :=
  ∃ entry op fields label, value = .object entry ∧ OperationIs entry op fields ∧
    LabelIs entry label

/-- The entries of a document: an object with at most two lists. -/
def Lists (document : Json) (data instructions : List Json) : Prop :=
  ∃ fields, document = .object fields ∧
    (∀ key ∈ fields.map Prod.fst, key = "data" ∨ key = "instructions") ∧
    ListIs "data" fields data ∧ ListIs "instructions" fields instructions

/-- The program of a document, one statement for each entry in order. -/
def Describes (document : Json) (program : Program) : Prop :=
  ∃ data instructions, Lists document data instructions ∧
    List.Forall₂ DataIs data program.data ∧
    List.Forall₂ InstructionIs instructions program.instructions

end Document

end Assembler
