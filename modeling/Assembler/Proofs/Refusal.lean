import Assembler.Proofs.Loading

/-!
# Refused documents

A document that does not conform is refused with a complaint about its format. If its two lists can
be found, the complaint names the first entry that does not conform, data before instructions.

Some entries escape this rule. The kind of a data entry may be a list or an object, a decimal
numeral may have more digits than are read, and an integer may have more digits than are written,
where it is a literal or where the complaint would show it. The error is a bare fault then, without
a location. `Program.ofJson_refusal` says that there are no other exceptions.
-/

namespace Assembler

/-! ## Complaints -/

/-- A complaint about the format of a document: about its shape, or about a literal. -/
def Cause.IsFormat : Cause → Prop
  | .shape _ | .invalidLiteral .. => True
  | _ => False

/-- An error that complains about the format at a place. -/
def Error.Blames (e : Error) (place : Option Location) : Prop :=
  ∃ cause : Cause, cause.IsFormat ∧ e = .located place cause

theorem Error.blames_shape (place : Option Location) (fault : ShapeFault) :
    (Error.shape place fault).Blames place :=
  ⟨.shape fault, trivial, rfl⟩

theorem Error.not_blames_fault {fault : Fault} {place : Option Location} :
    ¬ (Error.fault fault).Blames place := by
  rintro ⟨cause, -, same⟩
  cases same

/-- An error for a part of a document at a location: a complaint, unless the part escapes. -/
structure Error.Answers (e : Error) (location : Location) (escapes : Prop) : Prop where
  fault : escapes → ∃ f, e = .fault f
  blames : ¬ escapes → e.Blames (some location)

namespace Error.Answers

variable {e : Error} {location : Location} {escapes other : Prop}

theorem of_blames (blames : e.Blames (some location)) (regular : ¬ escapes) :
    e.Answers location escapes :=
  ⟨fun escaped => absurd escaped regular, fun _ => blames⟩

theorem of_iff (answers : e.Answers location escapes) (same : other ↔ escapes) :
    e.Answers location other := by
  rw [same]
  exact answers

end Error.Answers

theorem Error.answers_shapeOf {location : Location} {value : Json} {fault : ShapeFault} :
    (Error.shapeOf location value fault).Answers location (value.isWritable = false) := by
  unfold Error.shapeOf
  cases short : value.isWritable with
  | true => exact .of_blames (Error.blames_shape _ _) (by simp)
  | false => exact ⟨fun _ => ⟨_, rfl⟩, fun regular => absurd rfl regular⟩

namespace Document

/-! ## Parts that escape -/

/-- A value that is no literal and escapes: a decimal numeral that is too long, or a value with an
integer in it that is too long to be written. -/
inductive LiteralEscapes : Json → Prop where
  | numeral {text : Text} {digits : Nat} (long : Literal.parse text = .error (.tooLong digits)) :
      LiteralEscapes (.string text)
  | shown {value : Json} (long : value.isWritable = false) : LiteralEscapes value

/-- A value that is a literal. -/
def IsLiteral (value : Json) : Prop := ∃ l, LiteralIs value l

/-- A value that is a list or an object. -/
def IsCompound : Json → Prop
  | .array _ | .object _ => True
  | _ => False

/-- A data entry whose element escapes. -/
inductive ElementEscapes (entry : List (Text × Json)) : Prop where
  | kind {kind : Json} (given : Json.field? "kind" entry = some kind)
      (escapes : IsCompound kind ∨ kind.isWritable = false)
  | size {size : Json} (kind : Json.field? "kind" entry = some (.string "block"))
      (given : Json.field? "size" entry = some size) (escapes : LiteralEscapes size)
  | value {k : ListKind} {values : List Json} {index : Nat} {value : Json}
      (kind : Json.field? "kind" entry = some (.string k.name))
      (given : Json.field? "values" entry = some (.array values))
      (first : First IsLiteral values index value) (escapes : LiteralEscapes value)

/-- A data entry that escapes. Its label is looked at first. -/
def DataEscapes (value : Json) : Prop :=
  ∃ entry label, value = .object entry ∧ LabelIs entry label ∧ ElementEscapes entry

/-- An operand that escapes. -/
inductive OperandEscapes : OperandKind → Json → Prop where
  | register {value : Json} (long : value.isWritable = false) :
      OperandEscapes .register (.object [("register", value)])
  | literal {value : Json} (escapes : LiteralEscapes value) :
      OperandEscapes .literal (.object [("literal", value)])
  | address {value : Json} (escapes : LiteralEscapes value) :
      OperandEscapes .target (.object [("literal", value)])

/-- A position and its operand, which is of the kind that the position takes. -/
def IsOperand (position : OperandKind × Json) : Prop :=
  ∃ field, OperandIs position.1 position.2 field

/-- An instruction entry whose first wrong operand escapes. -/
inductive OperationEscapes (entry : List (Text × Json)) : Prop where
  | operand {text : Text} {op : Opcode} {values : List Json} {index : Nat} {kind : OperandKind}
      {value : Json} (mnemonic : Json.field? "mnemonic" entry = some (.string text))
      (spelled : Text.Spells text op.name) (listed : ListIs "operands" entry values)
      (counted : values.length = op.operands.length)
      (first : First IsOperand (op.operands.zip values) index (kind, value))
      (escapes : OperandEscapes kind value)

/-- An instruction entry that escapes. Its label is looked at last. -/
def InstructionEscapes (value : Json) : Prop :=
  ∃ entry, value = .object entry ∧ OperationEscapes entry

/-! ## Literals -/

variable {location : Location} {entry : List (Text × Json)} {e : Error}

theorem readLabel_eq_error (read : readLabel entry location = .error e) :
    e.Blames (some location) ∧ ∀ label, ¬ LabelIs entry label := by
  constructor
  · unfold readLabel at read
    split at read
    · cases read
    · cases read
    · split at read
      · cases read
        exact Error.blames_shape _ _
      · cases read
    · cases read
      exact Error.blames_shape _ _
  · intro label labelled
    rw [readLabel_eq_ok_iff.mpr labelled] at read
    cases read

theorem literalEscapes_string_iff {text : Text} :
    LiteralEscapes (.string text) ↔ ∃ digits, Literal.parse text = .error (.tooLong digits) := by
  constructor
  · rintro (long | long)
    · exact ⟨_, long⟩
    · cases long
  · rintro ⟨digits, long⟩
    exact .numeral long

theorem answers_ofRefusal {text : Text} {refusal : Literal.Refusal}
    (refused : Literal.parse text = .error refusal) :
    (Error.ofRefusal text location refusal).Answers location (LiteralEscapes (.string text)) := by
  have same : LiteralEscapes (.string text) ↔ ∃ digits, refusal = .tooLong digits := by
    rw [literalEscapes_string_iff, refused]
    simp
  apply Error.Answers.of_iff _ same
  cases refusal with
  | malformed reason =>
    exact .of_blames ⟨.invalidLiteral text reason, trivial, rfl⟩ (by simp)
  | tooLong digits => exact ⟨fun _ => ⟨_, rfl⟩, fun regular => absurd ⟨digits, rfl⟩ regular⟩

/-- A value that is not a literal is complained about, unless it escapes. -/
theorem readLiteral_eq_error {value : Json} (read : readLiteral value location = .error e) :
    e.Answers location (LiteralEscapes value) := by
  unfold readLiteral at read
  split at read
  · obtain ⟨refusal, refused, rfl⟩ := Outcome.mapError_eq_error_iff.mp read
    exact answers_ofRefusal refused
  · rename_i n
    cases short : Text.isWritable n with
    | true =>
      rw [Text.decimal?_of_isWritable short] at read
      obtain ⟨refusal, refused, -⟩ := Outcome.mapError_eq_error_iff.mp read
      rw [Literal.parse_decimal short] at refused
      cases refused
    | false =>
      rw [Text.decimal?_of_not_isWritable short] at read
      cases read
      exact ⟨fun _ => ⟨_, rfl⟩, fun regular => absurd (.shown short) regular⟩
  · -- Neither a text nor an integer: the complaint shows the value.
    rename_i notText notInteger
    cases read
    apply Error.answers_shapeOf.of_iff
    constructor
    · rintro (long | long)
      · exact absurd rfl (notText _)
      · exact long
    · exact .shown

theorem isLiteral_of_readLiteral {value : Json} {l : Literal}
    (read : readLiteral value location = .ok l) : IsLiteral value :=
  ⟨l, readLiteral_eq_ok_iff.mp read⟩

theorem not_isLiteral_of_readLiteral {value : Json}
    (read : readLiteral value location = .error e) : ¬ IsLiteral value := by
  rintro ⟨l, literal⟩
  rw [readLiteral_eq_ok_iff.mpr literal] at read
  cases read

/-- The first value that is no literal is the one that is refused. -/
theorem readLiterals_eq_error {values : List Json}
    (read : readLiterals location values = .error e) :
    ∃ index value, First IsLiteral values index value ∧
      readLiteral value location = .error e := by
  induction values with
  | nil => cases read
  | cons value rest ih =>
    simp only [readLiterals] at read
    split at read
    · rename_i refused
      cases read
      exact ⟨0, value, .head (not_isLiteral_of_readLiteral refused), refused⟩
    · rename_i l first
      split at read
      · rename_i others
        cases read
        obtain ⟨index, wrong, found, refused⟩ := ih others
        exact ⟨index + 1, wrong, found.tail (isLiteral_of_readLiteral first), refused⟩
      · cases read

/-! ## Data -/

theorem field?_of_getD {key : Text} {value : Json} (other : value ≠ .null)
    (found : (Json.field? key entry).getD .null = value) : Json.field? key entry = some value := by
  cases given : Json.field? key entry with
  | none =>
    rw [given] at found
    exact absurd found.symm other
  | some v =>
    rw [given] at found
    exact congrArg some found

/-- Which data entries escape if their kind is a text. -/
theorem elementEscapes_iff {name : Text}
    (named : Json.field? "kind" entry = some (.string name)) :
    ElementEscapes entry ↔
      (name = "block" ∧ ∃ size, Json.field? "size" entry = some size ∧ LiteralEscapes size) ∨
      ∃ (k : ListKind) (values : List Json) (index : Nat) (value : Json), name = k.name ∧
        Json.field? "values" entry = some (.array values) ∧ First IsLiteral values index value ∧
        LiteralEscapes value := by
  constructor
  · rintro (⟨given, escapes⟩ | ⟨kind, given, escapes⟩ | ⟨kind, given, first, escapes⟩)
    · rw [named] at given
      cases given
      rcases escapes with compound | long
      · cases compound
      · cases long
    · rw [named] at kind
      cases kind
      exact .inl ⟨rfl, _, given, escapes⟩
    · rw [named] at kind
      cases kind
      exact .inr ⟨_, _, _, _, rfl, given, first, escapes⟩
  · rintro (⟨rfl, size, given, escapes⟩ | ⟨k, values, index, value, rfl, given, first, escapes⟩)
    · exact .size named given escapes
    · exact .value named given first escapes

theorem readList_eq_error {k : ListKind} (named : Json.field? "kind" entry = some (.string k.name))
    (read : readList k entry location = .error e) : e.Answers location (ElementEscapes entry) := by
  have same : ElementEscapes entry ↔ ∃ values index value,
      Json.field? "values" entry = some (.array values) ∧ First IsLiteral values index value ∧
        LiteralEscapes value := by
    rw [elementEscapes_iff named]
    constructor
    · rintro (⟨block, -⟩ | ⟨_, values, index, value, -, escapes⟩)
      · exact absurd block (listKind_name_ne_block k)
      · exact ⟨values, index, value, escapes⟩
    · rintro ⟨values, index, value, escapes⟩
      exact .inr ⟨k, values, index, value, rfl, escapes⟩
  apply Error.Answers.of_iff _ same
  unfold readList at read
  split at read
  · rename_i value rest given
    obtain ⟨index, wrong, first, refused⟩ :=
      readLiterals_eq_error (Outcome.map_eq_error_iff.mp read)
    apply (readLiteral_eq_error refused).of_iff
    constructor
    · rintro ⟨values, j, other, again, second, escapes⟩
      rw [given] at again
      cases again
      obtain ⟨-, rfl⟩ := first.unique second
      exact escapes
    · intro escapes
      exact ⟨_, index, wrong, given, first, escapes⟩
  · rename_i noValues
    cases read
    apply Error.Answers.of_blames (Error.blames_shape _ _)
    -- An empty list has no first wrong value.
    rintro ⟨values, index, value, given, first, -⟩
    cases values with
    | nil => simpa using first.found
    | cons head rest => exact noValues head rest given

/-- An element that does not conform is complained about, unless it escapes. -/
theorem readElement_eq_error (read : readElement entry location = .error e) :
    e.Answers location (ElementEscapes entry) := by
  unfold readElement at read
  split at read
  · rename_i name kind
    have named := field?_of_getD (by simp) kind
    split at read
    · rename_i block
      subst block
      have same : ElementEscapes entry ↔
          ∃ size, Json.field? "size" entry = some size ∧ LiteralEscapes size := by
        rw [elementEscapes_iff named]
        constructor
        · rintro (⟨-, escapes⟩ | ⟨k, _, _, _, list, -⟩)
          · exact escapes
          · exact absurd list.symm (listKind_name_ne_block k)
        · intro escapes
          exact .inl ⟨rfl, escapes⟩
      apply Error.Answers.of_iff _ same
      split at read
      · rename_i missing
        cases read
        exact .of_blames (Error.blames_shape _ _) (by simp [missing])
      · rename_i size given
        apply (readLiteral_eq_error (Outcome.map_eq_error_iff.mp read)).of_iff
        simp [given]
    · rename_i notBlock
      split at read
      · rename_i k found
        rw [listKind?_eq_some_iff] at found
        subst found
        exact readList_eq_error named read
      · rename_i unknown
        cases read
        apply Error.Answers.of_blames (Error.blames_shape _ _)
        rw [elementEscapes_iff named]
        rintro (⟨block, -⟩ | ⟨k, _, _, _, list, -⟩)
        · exact notBlock block
        · rw [listKind?_eq_some_iff.mpr list] at unknown
          cases unknown
  · rename_i items kind
    cases read
    have given := field?_of_getD (by simp) kind
    exact ⟨fun _ => ⟨_, rfl⟩, fun regular => absurd (.kind given (.inl trivial)) regular⟩
  · rename_i fields kind
    cases read
    have given := field?_of_getD (by simp) kind
    exact ⟨fun _ => ⟨_, rfl⟩, fun regular => absurd (.kind given (.inl trivial)) regular⟩
  · -- No kind, or one that is shown in the complaint.
    rename_i notText notArray notObject
    cases read
    apply Error.answers_shapeOf.of_iff
    constructor
    · rintro (⟨given, escapes⟩ | ⟨kind, -, -⟩ | ⟨kind, -, -, -⟩)
      · rw [given, Option.getD_some] at notArray notObject ⊢
        rcases escapes with compound | long
        · rename_i kind
          cases kind <;> simp_all [IsCompound]
        · exact long
      · rw [kind] at notText
        exact absurd rfl (notText _)
      · rw [kind] at notText
        exact absurd rfl (notText _)
    · intro long
      cases given : Json.field? "kind" entry with
      | none =>
        rw [given] at long
        cases long
      | some kind =>
        rw [given] at long
        exact .kind given (.inr long)

theorem readData_eq_error {value : Json} (read : readData value location = .error e) :
    e.Answers location (DataEscapes value) := by
  unfold readData at read
  split at read
  · rename_i entry
    split at read
    · rename_i refused
      cases read
      obtain ⟨blames, unlabelled⟩ := readLabel_eq_error refused
      apply Error.Answers.of_blames blames
      rintro ⟨entry, label, ⟨⟩, labelled, -⟩
      exact unlabelled label labelled
    · rename_i label labelled
      apply (readElement_eq_error (Outcome.map_eq_error_iff.mp read)).of_iff
      constructor
      · rintro ⟨entry, label, ⟨⟩, -, escapes⟩
        exact escapes
      · intro escapes
        exact ⟨entry, label, rfl, readLabel_eq_ok_iff.mp labelled, escapes⟩
  · rename_i notObject
    cases read
    apply Error.Answers.of_blames (Error.blames_shape _ _)
    rintro ⟨entry, label, rfl, -⟩
    exact notObject entry rfl

/-! ## Instructions -/

section

variable {value : Json} {kind : OperandKind}

/-- Which operands with one field escape. -/
theorem operandEscapes_iff {key : Text} :
    OperandEscapes kind (.object [(key, value)]) ↔
      (kind = .register ∧ key = "register" ∧ value.isWritable = false) ∨
      ((kind = .literal ∨ kind = .target) ∧ key = "literal" ∧ LiteralEscapes value) := by
  constructor
  · rintro (long | escapes | escapes)
    · exact .inl ⟨rfl, rfl, long⟩
    · exact .inr ⟨.inl rfl, rfl, escapes⟩
    · exact .inr ⟨.inr rfl, rfl, escapes⟩
  · rintro (⟨rfl, rfl, long⟩ | ⟨rfl | rfl, rfl, escapes⟩)
    · exact .register long
    · exact .literal escapes
    · exact .address escapes

theorem accepts_iff {key : Text} :
    accepts kind key = true ↔
      (kind = .register ∧ key = "register") ∨
      ((kind = .literal ∨ kind = .target) ∧ key = "literal") ∨
      ((kind = .identifier ∨ kind = .target) ∧ key = "identifier") := by
  cases kind <;> simp [accepts]

/-- An operand that is not of its kind is complained about, unless it escapes. -/
theorem readOperand_eq_error {op : Opcode} (read : readOperand op kind value location = .error e) :
    e.Answers location (OperandEscapes kind value) := by
  unfold readOperand at read
  split at read
  · rename_i key value
    split at read
    · rename_i accepted
      apply Error.Answers.of_iff _ operandEscapes_iff
      unfold readKeyed at read
      rcases accepts_iff.mp accepted with ⟨rfl, rfl⟩ | ⟨position, rfl⟩ | ⟨position, rfl⟩
      · rw [if_pos rfl] at read
        simp only [true_and, reduceCtorEq, or_self, false_and, or_false]
        split at read
        · rename_i token
          split at read
          · cases read
          · cases read
            exact .of_blames (Error.blames_shape _ _) nofun
        · cases read
          exact Error.answers_shapeOf
      · rw [if_neg (by decide), if_pos rfl] at read
        apply (readLiteral_eq_error (Outcome.map_eq_error_iff.mp read)).of_iff
        simp [position]
      · rw [if_neg (by decide), if_neg (by decide)] at read
        have blames : e.Blames (some location) := by
          split at read
          · split at read
            · cases read
              exact Error.blames_shape _ _
            · cases read
          · cases read
            exact Error.blames_shape _ _
        exact .of_blames blames (by simp)
    · rename_i refused
      cases read
      apply Error.Answers.of_blames (Error.blames_shape _ _)
      rw [operandEscapes_iff]
      rintro (⟨rfl, rfl, -⟩ | ⟨position, rfl, -⟩)
      · exact refused (accepts_iff.mpr (.inl ⟨rfl, rfl⟩))
      · exact refused (accepts_iff.mpr (.inr (.inl ⟨position, rfl⟩)))
  · rename_i notSingle
    cases read
    apply Error.Answers.of_blames (Error.blames_shape _ _)
    rintro (long | escapes | escapes) <;> exact notSingle _ _ rfl

end

theorem not_isOperand_of_readOperand {op : Opcode} {kind : OperandKind} {value : Json}
    (read : readOperand op kind value location = .error e) : ¬ IsOperand (kind, value) := by
  rintro ⟨field, operand⟩
  obtain ⟨a, accepted, -⟩ := readOperand_of_operand op location operand
  rw [read] at accepted
  cases accepted

/-- The first operand that is not of its kind is the one that is refused. -/
theorem readOperands_eq_error {op : Opcode} {kinds : List OperandKind} {values : List Json}
    (read : readOperands op location kinds values = .error e) :
    ∃ index kind value, First IsOperand (kinds.zip values) index (kind, value) ∧
      readOperand op kind value location = .error e := by
  induction kinds generalizing values with
  | nil =>
    simp only [readOperands] at read
    cases read
  | cons kind kinds ih =>
    cases values with
    | nil =>
      simp only [readOperands] at read
      cases read
    | cons value values =>
      simp only [readOperands] at read
      split at read
      · rename_i refused
        cases read
        exact ⟨0, kind, value, .head (not_isOperand_of_readOperand refused), refused⟩
      · rename_i argument first
        split at read
        · rename_i others
          cases read
          obtain ⟨index, wrongKind, wrong, found, refused⟩ := ih others
          have operand : IsOperand (kind, value) := ⟨_, (operand_of_readOperand first).2⟩
          exact ⟨index + 1, wrongKind, wrong, found.tail operand, refused⟩
        · cases read

theorem ListIs.unique {key : Text} {fields : List (Text × Json)} {left right : List Json}
    (first : ListIs key fields left) (second : ListIs key fields right) : left = right := by
  cases first <;> cases second <;> simp_all

theorem listField_eq_error {key : Text} {fields : List (Text × Json)} {refusal : Error}
    (read : listField key fields refusal = .error e) :
    e = refusal ∧ ∀ items, ¬ ListIs key fields items := by
  constructor
  · unfold listField at read
    split at read
    · cases read
    · cases read
    · cases read
      rfl
  · intro items listed
    rw [listField_eq_ok_iff.mpr listed] at read
    cases read

/-- Which instruction entries escape if their opcode and their operand list are known. -/
theorem operationEscapes_iff {text : Text} {op : Opcode} {values : List Json}
    (mnemonic : Json.field? "mnemonic" entry = some (.string text))
    (spelled : Text.Spells text op.name) (listed : ListIs "operands" entry values) :
    OperationEscapes entry ↔ values.length = op.operands.length ∧ ∃ index kind value,
      First IsOperand (op.operands.zip values) index (kind, value) ∧
        OperandEscapes kind value := by
  constructor
  · rintro ⟨again, respelled, relisted, counted, first, escapes⟩
    rw [mnemonic] at again
    cases again
    have sameOpcode := Opcode.ofMnemonic?_eq_some_iff.mpr respelled
    rw [Opcode.ofMnemonic?_eq_some_iff.mpr spelled] at sameOpcode
    cases sameOpcode
    obtain rfl := listed.unique relisted
    exact ⟨counted, _, _, _, first, escapes⟩
  · rintro ⟨counted, index, kind, value, first, escapes⟩
    exact .operand mnemonic spelled listed counted first escapes

/-- A form that cannot be made is complained about, unless an operand escapes. -/
theorem readForm_eq_error (read : readForm entry location = .error e) :
    e.Answers location (OperationEscapes entry) := by
  unfold readForm at read
  split at read
  · rename_i text mnemonic
    split at read
    · rename_i unknown
      cases read
      apply Error.Answers.of_blames (Error.blames_shape _ _)
      rintro ⟨again, spelled, -⟩
      rw [mnemonic] at again
      cases again
      rw [Opcode.ofMnemonic?_eq_some_iff.mpr spelled] at unknown
      cases unknown
    · rename_i op named
      have spelled := Opcode.ofMnemonic?_eq_some_iff.mp named
      split at read
      · rename_i refused
        cases read
        obtain ⟨rfl, unlisted⟩ := listField_eq_error refused
        apply Error.Answers.of_blames (Error.blames_shape _ _)
        rintro ⟨-, -, listed, -⟩
        exact unlisted _ listed
      · rename_i values found
        have listed := listField_eq_ok_iff.mp found
        apply Error.Answers.of_iff _ (operationEscapes_iff mnemonic spelled listed)
        split at read
        · rename_i miscounted
          cases read
          exact .of_blames (Error.blames_shape _ _) fun escapes => miscounted escapes.1
        · rename_i counted
          have counted := not_not.mp counted
          split at read
          · rename_i wrong
            cases read
            obtain ⟨index, kind, value, first, refused⟩ := readOperands_eq_error wrong
            apply (readOperand_eq_error refused).of_iff
            constructor
            · rintro ⟨-, j, otherKind, other, second, escapes⟩
              obtain ⟨-, same⟩ := first.unique second
              cases same
              exact escapes
            · intro escapes
              exact ⟨counted, index, kind, value, first, escapes⟩
          · -- Operands that were read always make a form.
            rename_i arguments operandsRead
            obtain ⟨form, formed, -⟩ :=
              form?_of_suits (operands_of_readOperands counted operandsRead).1
            rw [formed] at read
            cases read
  · rename_i unnamed
    cases read
    apply Error.Answers.of_blames (Error.blames_shape _ _)
    rintro ⟨mnemonic, -⟩
    exact unnamed _ mnemonic

theorem OperandsAre.isOperand {kinds : List OperandKind} {values : List Json}
    {fields : List Field} (operands : OperandsAre kinds values fields) :
    ∀ position ∈ kinds.zip values, IsOperand position := by
  induction operands with
  | nil => simp
  | cons first _ ih => exact List.forall_mem_cons.mpr ⟨⟨_, first⟩, ih⟩

/-- An instruction whose form can be made does not escape. -/
theorem OperationIs.not_escapes {op : Opcode} {fields : List Field}
    (operation : OperationIs entry op fields) : ¬ OperationEscapes entry := by
  obtain ⟨⟨text, mnemonic, spelled⟩, values, listed, operands⟩ := operation
  rw [operationEscapes_iff mnemonic spelled listed]
  rintro ⟨-, index, kind, value, first, -⟩
  exact first.not_all operands.isOperand

theorem readInstruction_eq_error {value : Json}
    (read : readInstruction value location = .error e) :
    e.Answers location (InstructionEscapes value) := by
  unfold readInstruction at read
  split at read
  · rename_i entry
    have same : InstructionEscapes (.object entry) ↔ OperationEscapes entry := by
      constructor
      · rintro ⟨_, ⟨⟩, escapes⟩
        exact escapes
      · intro escapes
        exact ⟨entry, rfl, escapes⟩
    apply Error.Answers.of_iff _ same
    split at read
    · rename_i refused
      cases read
      exact readForm_eq_error refused
    · -- The label is looked at last, when no operand can escape any more.
      rename_i form made
      have blames := (readLabel_eq_error (Outcome.map_eq_error_iff.mp read)).1
      exact .of_blames blames (operation_of_readForm made).2.not_escapes
  · rename_i notObject
    cases read
    apply Error.Answers.of_blames (Error.blames_shape _ _)
    rintro ⟨entry, rfl, -⟩
    exact notObject entry rfl

/-! ## Documents -/

/-- The first entry that is not read is the one that is refused. -/
theorem readEntries_eq_error {α : Type} {read : Json → Location → Except Error α}
    {Good : Json → Prop}
    (good : ∀ value location, Good value ↔ ∃ item, read value location = .ok item)
    {segment : Segment} {start : Nat} {values : List Json}
    (refused : readEntries read segment start values = .error e) :
    ∃ (index : Nat) (value : Json), First Good values index value ∧
      read value ⟨segment, ↑(start + index)⟩ = .error e := by
  induction values generalizing start with
  | nil => cases refused
  | cons value rest ih =>
    simp only [readEntries] at refused
    split at refused
    · rename_i wrong
      cases refused
      refine ⟨0, value, .head ?_, wrong⟩
      rw [good value ⟨segment, start⟩, wrong]
      simp
    · rename_i item first
      split at refused
      · rename_i others
        cases refused
        obtain ⟨index, other, found, wrong⟩ := ih others
        refine ⟨index + 1, other, found.tail ((good _ _).mpr ⟨item, first⟩), ?_⟩
        -- The rest was read from the next index on.
        rw [← wrong, Nat.add_right_comm, Nat.add_assoc]
      · cases refused

theorem readEntries_data_eq_error {values : List Json}
    (refused : readEntries readData .data 0 values = .error e) :
    ∃ (index : Nat) (value : Json), First IsData values index value ∧
      e.Answers ⟨.data, index⟩ (DataEscapes value) := by
  have good : ∀ value location, IsData value ↔ ∃ item, readData value location = .ok item := by
    intro value location
    simp only [isData_iff, readData_eq_ok_iff]
  obtain ⟨index, value, first, wrong⟩ := readEntries_eq_error good refused
  rw [Nat.zero_add] at wrong
  exact ⟨index, value, first, readData_eq_error wrong⟩

theorem readEntries_instructions_eq_error {values : List Json}
    (refused : readEntries readInstruction .instructions 0 values = .error e) :
    ∃ (index : Nat) (value : Json), First IsInstruction values index value ∧
      e.Answers ⟨.instructions, index⟩ (InstructionEscapes value) := by
  have good : ∀ value location,
      IsInstruction value ↔ ∃ item, readInstruction value location = .ok item := by
    intro value location
    simp only [isInstruction_iff, readInstruction_eq_ok_iff]
  obtain ⟨index, value, first, wrong⟩ := readEntries_eq_error good refused
  rw [Nat.zero_add] at wrong
  exact ⟨index, value, first, readInstruction_eq_error wrong⟩

/-- An entry that escapes, by the segment that it stands in. -/
def EntryEscapes : Segment → Json → Prop
  | .data => DataEscapes
  | .instructions => InstructionEscapes

/-- The first entry that does not conform, data before instructions. -/
inductive FirstMisfit (data instructions : List Json) : Location → Json → Prop where
  | data {index : Nat} {value : Json} (first : First IsData data index value) :
      FirstMisfit data instructions ⟨.data, index⟩ value
  | instruction {index : Nat} {value : Json} (fine : ∀ entry ∈ data, IsData entry)
      (first : First IsInstruction instructions index value) :
      FirstMisfit data instructions ⟨.instructions, index⟩ value

theorem FirstMisfit.unique {data instructions : List Json} {here there : Location}
    {value other : Json} (first : FirstMisfit data instructions here value)
    (second : FirstMisfit data instructions there other) : here = there ∧ value = other := by
  cases first with
  | data first =>
    cases second with
    | data second =>
      obtain ⟨rfl, rfl⟩ := first.unique second
      exact ⟨rfl, rfl⟩
    | instruction fine _ => exact absurd fine first.not_all
  | instruction fine first =>
    cases second with
    | data second => exact absurd fine second.not_all
    | instruction _ second =>
      obtain ⟨rfl, rfl⟩ := first.unique second
      exact ⟨rfl, rfl⟩

theorem Lists.unique {document : Json} {data data' instructions instructions' : List Json}
    (first : Lists document data instructions) (second : Lists document data' instructions') :
    data = data' ∧ instructions = instructions' := by
  obtain ⟨fields, rfl, -, dataListed, instructionsListed⟩ := first
  obtain ⟨_, ⟨⟩, -, dataAgain, instructionsAgain⟩ := second
  exact ⟨dataListed.unique dataAgain, instructionsListed.unique instructionsAgain⟩

/-- An error that tells what is wrong with a document: the outline, or its first bad entry. -/
inductive Rejects (document : Json) (e : Error) : Prop where
  | outline (malformed : ∀ data instructions, ¬ Lists document data instructions)
      (blames : e.Blames none)
  | entry {data instructions : List Json} {location : Location} {value : Json}
      (lists : Lists document data instructions)
      (first : FirstMisfit data instructions location value) (blames : e.Blames (some location))

/-- The first entry of a document that does not conform escapes. -/
def Escapes (document : Json) : Prop :=
  ∃ data instructions location value, Lists document data instructions ∧
    FirstMisfit data instructions location value ∧ EntryEscapes location.segment value

/-- Whether a document escapes if its first bad entry is known. -/
theorem escapes_iff_of_firstMisfit {document : Json} {data instructions : List Json}
    {value : Json} (lists : Lists document data instructions)
    (first : FirstMisfit data instructions location value) :
    Escapes document ↔ EntryEscapes location.segment value := by
  constructor
  · rintro ⟨_, _, there, other, again, second, escapes⟩
    obtain ⟨rfl, rfl⟩ := lists.unique again
    obtain ⟨rfl, rfl⟩ := first.unique second
    exact escapes
  · intro escapes
    exact ⟨data, instructions, location, value, lists, first, escapes⟩

/-- A document is refused for its outline, or for its first bad entry. -/
theorem ofJson_eq_error {document : Json} (refused : Program.ofJson document = .error e) :
    ((∀ data instructions, ¬ Lists document data instructions) ∧ e.Blames none) ∨
    ∃ data instructions location value, Lists document data instructions ∧
      FirstMisfit data instructions location value ∧
      e.Answers location (EntryEscapes location.segment value) := by
  unfold Program.ofJson at refused
  split at refused
  · rename_i fields
    split at refused
    · rename_i unknown
      cases refused
      refine .inl ⟨?_, Error.blames_shape _ _⟩
      rintro data instructions ⟨_, ⟨⟩, known, -⟩
      exact unknown (unknownKeys_eq_nil_iff.mpr known)
    · rename_i known
      have known := unknownKeys_eq_nil_iff.mp (not_not.mp known)
      split at refused
      · rename_i wrong
        cases refused
        obtain ⟨rfl, unlisted⟩ := listField_eq_error wrong
        refine .inl ⟨?_, Error.blames_shape _ _⟩
        rintro data instructions ⟨_, ⟨⟩, -, listed, -⟩
        exact unlisted data listed
      · rename_i wrong
        cases refused
        obtain ⟨rfl, unlisted⟩ := listField_eq_error wrong
        refine .inl ⟨?_, Error.blames_shape _ _⟩
        rintro data instructions ⟨_, ⟨⟩, -, -, listed⟩
        exact unlisted instructions listed
      · rename_i data instructions dataListed instructionsListed
        have lists : Lists (.object fields) data instructions :=
          ⟨fields, rfl, known, listField_eq_ok_iff.mp dataListed,
            listField_eq_ok_iff.mp instructionsListed⟩
        split at refused
        · rename_i wrong
          cases refused
          obtain ⟨index, value, first, answers⟩ := readEntries_data_eq_error wrong
          exact .inr ⟨data, instructions, _, value, lists, .data first, answers⟩
        · rename_i statements dataRead
          have fine : ∀ entry ∈ data, IsData entry := by
            intro entry member
            have described := readEntries_data_eq_ok_iff.mp dataRead
            exact isData_iff.mpr (Correspondence.exists_right_iff.mp ⟨_, described⟩ entry member)
          obtain ⟨index, value, first, answers⟩ :=
            readEntries_instructions_eq_error (Outcome.map_eq_error_iff.mp refused)
          exact .inr ⟨data, instructions, _, value, lists, .instruction fine first, answers⟩
  · rename_i notObject
    cases refused
    refine .inl ⟨?_, Error.blames_shape _ _⟩
    rintro data instructions ⟨fields, rfl, -⟩
    exact notObject fields rfl

end Document

open Document in
/-- A refused document is complained about, with the location of its first bad entry if its outline
is sound, unless this entry escapes. Then the error is a fault. -/
theorem Program.ofJson_refusal {document : Json} {e : Error}
    (refused : Program.ofJson document = .error e) :
    (Rejects document e ↔ ¬ Escapes document) ∧ (Escapes document → ∃ fault, e = .fault fault) := by
  rcases ofJson_eq_error refused with ⟨malformed, blames⟩ |
    ⟨data, instructions, location, value, lists, first, answers⟩
  · have regular : ¬ Escapes document := by
      rintro ⟨data, instructions, _, _, lists, -⟩
      exact malformed data instructions lists
    exact ⟨⟨fun _ => regular, fun _ => .outline malformed blames⟩,
      fun escapes => absurd escapes regular⟩
  · have same := escapes_iff_of_firstMisfit lists first
    rw [same]
    refine ⟨⟨?_, fun regular => .entry lists first (answers.blames regular)⟩, answers.fault⟩
    intro rejects escapes
    obtain ⟨fault, rfl⟩ := answers.fault escapes
    cases rejects with
    | outline malformed => exact malformed data instructions lists
    | entry _ _ blames => exact Error.not_blames_fault blames

/-- A data entry with one value, whose kind is given. -/
def Json.entryOfKind (kind : Json) : Json :=
  .object [("kind", kind), ("values", .array [.int 1])]

/-- A document with such an entry. -/
def Json.bytesOfKind (kind : Json) : Json := .object [("data", .array [.entryOfKind kind])]

namespace Document

theorem lists_bytesOfKind (kind : Json) : Lists (.bytesOfKind kind) [.entryOfKind kind] [] :=
  ⟨_, rfl, by simp, .given rfl, .absent rfl⟩

theorem firstMisfit_entryOfKind {kind : Json} {e : Error}
    (refused : readData (.entryOfKind kind) ⟨.data, 0⟩ = .error e) :
    FirstMisfit [.entryOfKind kind] [] ⟨.data, 0⟩ (.entryOfKind kind) := by
  refine FirstMisfit.data (.head ?_)
  rw [isData_iff]
  rintro ⟨statement, described⟩
  rw [readData_eq_ok_iff.mpr described] at refused
  cases refused

theorem ofJson_bytesOfKind {kind : Json} {e : Error}
    (refused : readData (.entryOfKind kind) ⟨.data, 0⟩ = .error e) :
    Program.ofJson (.bytesOfKind kind) = .error e := by
  have known : unknownKeys [("data", .array [.entryOfKind kind])] = [] :=
    unknownKeys_eq_nil_iff.mpr (by simp)
  have listed : segmentList [("data", .array [.entryOfKind kind])] .data =
      .ok [.entryOfKind kind] := rfl
  have unlisted : segmentList [("data", .array [.entryOfKind kind])] .instructions = .ok [] := rfl
  simp only [Program.ofJson, Json.bytesOfKind, known, ne_eq, not_true_eq_false, if_false, listed,
    unlisted, readEntries, Int.ofNat_zero, refused]

end Document

open Document in
/-- A kind that is an unknown text is complained about, and a kind that is a list escapes. -/
theorem Program.ofJson_refusal_kind :
    (∃ e, Program.ofJson (.bytesOfKind (.string "bit")) = .error e ∧
      Rejects (.bytesOfKind (.string "bit")) e ∧ ¬ Escapes (.bytesOfKind (.string "bit"))) ∧
    ∃ e, Program.ofJson (.bytesOfKind (.array [.string "byte"])) = .error e ∧
      Escapes (.bytesOfKind (.array [.string "byte"])) ∧
      ¬ Rejects (.bytesOfKind (.array [.string "byte"])) e := by
  constructor
  · have unknown : readData (.entryOfKind (.string "bit")) ⟨.data, 0⟩ =
        .error (.shape (some ⟨.data, 0⟩) (.dataKind (.string "bit"))) := rfl
    have blames := Error.blames_shape (some ⟨.data, 0⟩) (.dataKind (.string "bit"))
    have rejects : Rejects (.bytesOfKind (.string "bit")) _ :=
      .entry (lists_bytesOfKind _) (firstMisfit_entryOfKind unknown) blames
    have refused := ofJson_bytesOfKind unknown
    exact ⟨_, refused, rejects, (Program.ofJson_refusal refused).1.mp rejects⟩
  · have compound : readData (.entryOfKind (.array [.string "byte"])) ⟨.data, 0⟩ =
        .error (.fault (.compoundKind false)) := rfl
    have escapes : Escapes (.bytesOfKind (.array [.string "byte"])) :=
      ⟨_, _, _, _, lists_bytesOfKind _, firstMisfit_entryOfKind compound, _, none, rfl,
        .absent rfl, .kind rfl (.inl trivial)⟩
    have refused := ofJson_bytesOfKind compound
    exact ⟨_, refused, escapes,
      fun rejects => (Program.ofJson_refusal refused).1.mp rejects escapes⟩

end Assembler
