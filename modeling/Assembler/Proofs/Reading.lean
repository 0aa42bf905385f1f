import Assembler.Document
import Assembler.Proofs.Expansion

/-!
# Programs from documents

Reading a document leaves a program of a narrower kind than the assembler takes. Every form is made
for the class of its opcode, every number is a literal that was read, and only jumps and address
loads name labels. `Program.WasRead` says so, and the later passes rely on it.
-/

namespace Assembler

/-! ## What reading guarantees -/

/-- A literal that was read. -/
def Operand.IsNumeral (o : Operand) : Prop := ∃ l, o = .numeral l ∧ l.WasRead

/-- A jump target that was read: a label, or a literal address. -/
def Operand.IsTarget (o : Operand) : Prop :=
  (∃ name, o = .label name) ∨ ∃ value, o = .fixed value ∧ value.IsNumeral

/-- What the operands of a form are that was read. -/
def Form.OperandsRead : Form → Prop
  | .immSigned _ _ _ o | .immUnsigned _ _ _ o | .loadImm _ _ o | .setImm _ _ o
  | .loadStore _ _ o _ | .loadWord _ o => o.IsNumeral
  | .branch _ _ target | .jump _ target => target.IsTarget
  | .loadAddress _ _ target => ∃ name, target = .label name
  | _ => True

/-- A form that was read. -/
structure Form.WasRead (form : Form) : Prop where
  inClass : form.opcode.instructionClass = form.shape
  operands : form.OperandsRead

/-- A data element that was read. -/
def Element.WasRead : Element → Prop
  | .block size => size.IsNumeral
  | .list _ values => ∀ o ∈ values, o.IsNumeral

/-- A program that was read. -/
structure Program.WasRead (program : Program) : Prop where
  data : ∀ statement ∈ program.data, statement.body.WasRead
  instructions : ∀ statement ∈ program.instructions,
    ∃ form, statement.body = .form form ∧ form.WasRead

namespace Document

variable {location : Location}

/-! ## Literals and data -/

theorem parseLiteral_wasRead {text : Text} {place : Option Location} {l : Literal}
    (read : parseLiteral text place = .ok l) : l.WasRead :=
  Literal.parse_wasRead (Outcome.mapError_eq_ok_iff.mp read)

theorem readLiteral_wasRead {value : Json} {l : Literal}
    (read : readLiteral value location = .ok l) : l.WasRead := by
  unfold readLiteral at read
  split at read
  · exact parseLiteral_wasRead read
  · split at read
    · exact parseLiteral_wasRead read
    · cases read
  · cases read

theorem readLiterals_wasRead {values : List Json} {ls : List Literal}
    (read : readLiterals location values = .ok ls) : ∀ l ∈ ls, l.WasRead := by
  induction values generalizing ls with
  | nil =>
    cases read
    simp
  | cons value rest ih =>
    simp only [readLiterals] at read
    split at read
    · cases read
    · rename_i l first
      split at read
      · cases read
      · rename_i later others
        cases read
        exact List.forall_mem_cons.mpr ⟨readLiteral_wasRead first, ih others⟩

theorem readElement_wasRead {entry : List (Text × Json)} {element : Element}
    (read : readElement entry location = .ok element) : element.WasRead := by
  unfold readElement at read
  split at read
  · split at read
    · split at read
      · cases read
      · obtain ⟨l, size, rfl⟩ := Outcome.map_eq_ok_iff.mp read
        exact ⟨l, rfl, readLiteral_wasRead size⟩
    · split at read
      · unfold readList at read
        split at read
        · obtain ⟨ls, values, rfl⟩ := Outcome.map_eq_ok_iff.mp read
          intro o member
          obtain ⟨l, inside, rfl⟩ := List.mem_map.mp member
          exact ⟨l, rfl, readLiterals_wasRead values l inside⟩
        · cases read
      · cases read
  · cases read
  · cases read
  · cases read

theorem readData_wasRead {value : Json} {statement : Statement Element}
    (read : readData value location = .ok statement) : statement.body.WasRead := by
  unfold readData at read
  split at read
  · split at read
    · cases read
    · obtain ⟨element, found, rfl⟩ := Outcome.map_eq_ok_iff.mp read
      exact readElement_wasRead found
  · cases read

/-! ## Instructions -/

theorem readKeyed_wasRead {key : Text} {value : Json} {l : Literal}
    (read : readKeyed key value location = .ok (.literal l)) : l.WasRead := by
  unfold readKeyed at read
  split at read
  · split at read
    · split at read <;> cases read
    · cases read
  · split at read
    · obtain ⟨_, found, same⟩ := Outcome.map_eq_ok_iff.mp read
      cases same
      exact readLiteral_wasRead found
    · split at read
      · split at read <;> cases read
      · cases read

theorem readOperands_wasRead {op : Opcode} {kinds : List OperandKind} {values : List Json}
    {arguments : List Argument} (read : readOperands op location kinds values = .ok arguments) :
    ∀ l, .literal l ∈ arguments → l.WasRead := by
  induction kinds generalizing values arguments with
  | nil =>
    simp only [readOperands] at read
    cases read
    simp
  | cons kind kinds ih =>
    cases values with
    | nil =>
      simp only [readOperands] at read
      cases read
      simp
    | cons value values =>
      simp only [readOperands] at read
      split at read
      · cases read
      · rename_i argument first
        split at read
        · cases read
        · rename_i later others
          cases read
          intro l member
          rcases List.mem_cons.mp member with rfl | member
          · unfold readOperand at first
            split at first
            · split at first
              · exact readKeyed_wasRead first
              · cases first
            · cases first
          · exact ih others l member

theorem Argument.target?_isTarget {argument : Argument} {target : Operand}
    (found : argument.target? = some target) (read : ∀ l, argument = .literal l → l.WasRead) :
    target.IsTarget := by
  cases argument with
  | register r => cases found
  | literal l =>
    cases found
    exact .inr ⟨_, rfl, l, rfl, read l rfl⟩
  | identifier name =>
    cases found
    exact .inl ⟨name, rfl⟩

/-- The form of an opcode is made for its class. -/
theorem form?_wasRead {op : Opcode} {arguments : List Argument} {form : Form}
    (formed : form? op arguments = some form)
    (read : ∀ l, .literal l ∈ arguments → l.WasRead) : form.WasRead := by
  unfold form? at formed
  split at formed
  case h_1 | h_2 | h_5 | h_8 | h_10 =>
    rename_i inClass
    cases formed
    exact ⟨inClass, trivial⟩
  case h_3 | h_4 | h_6 | h_7 | h_11 =>
    rename_i inClass
    cases formed
    exact ⟨inClass, _, rfl, read _ (by simp)⟩
  case h_9 | h_12 =>
    rename_i inClass
    obtain ⟨target, found, rfl⟩ := Option.map_eq_some_iff.mp formed
    refine ⟨inClass, Argument.target?_isTarget found ?_⟩
    rintro l rfl
    exact read l (by simp)
  case h_13 =>
    cases formed
    split <;> exact ⟨rfl, trivial⟩
  case h_14 =>
    cases formed
    exact ⟨rfl, _, rfl, read _ (by simp)⟩
  case h_15 =>
    rename_i name inClass
    cases formed
    exact ⟨inClass, name, rfl⟩
  case h_16 => cases formed

theorem readInstruction_wasRead {value : Json} {statement : Statement Instruction}
    (read : readInstruction value location = .ok statement) :
    ∃ form, statement.body = .form form ∧ form.WasRead := by
  unfold readInstruction at read
  split at read
  · split at read
    · cases read
    · rename_i form found
      obtain ⟨label, -, rfl⟩ := Outcome.map_eq_ok_iff.mp read
      refine ⟨form, rfl, ?_⟩
      unfold readForm at found
      split at found
      · split at found
        · cases found
        · split at found
          · cases found
          · split at found
            · cases found
            · split at found
              · cases found
              · rename_i arguments operands
                split at found
                · rename_i formed
                  cases found
                  exact form?_wasRead formed (readOperands_wasRead operands)
                · cases found
      · cases found
  · cases read

/-! ## Documents -/

/-- What holds of every entry that is read holds of a segment. -/
theorem forall_of_readEntries {α : Type} {read : Json → Location → Except Error α}
    {segment : Segment} {P : α → Prop}
    (each : ∀ {value location item}, read value location = .ok item → P item) {index : Nat}
    {values : List Json} {items : List α}
    (done : readEntries read segment index values = .ok items) : ∀ item ∈ items, P item := by
  induction values generalizing index items with
  | nil =>
    cases done
    simp
  | cons value rest ih =>
    simp only [readEntries] at done
    split at done
    · cases done
    · rename_i item first
      split at done
      · cases done
      · rename_i later others
        cases done
        exact List.forall_mem_cons.mpr ⟨each first, ih others⟩

end Document

open Document in
/-- Programs from documents are of the narrower kind. -/
theorem Program.ofJson_wasRead {document : Json} {program : Program}
    (read : Program.ofJson document = .ok program) : program.WasRead := by
  unfold Program.ofJson at read
  split at read
  · split at read
    · cases read
    · split at read
      · cases read
      · cases read
      · split at read
        · cases read
        · rename_i data dataRead
          obtain ⟨instructions, instructionsRead, rfl⟩ := Outcome.map_eq_ok_iff.mp read
          exact ⟨forall_of_readEntries readData_wasRead dataRead,
            forall_of_readEntries readInstruction_wasRead instructionsRead⟩
  · cases read

theorem Program.ofFile_wasRead {path : String} {bytes : List UInt8} {program : Program}
    (read : Program.ofFile path bytes = .ok program) : program.WasRead := by
  unfold Program.ofFile at read
  split at read
  · cases read
  · dsimp only at read
    split at read
    · exact Program.ofJson_wasRead read
    · cases read
    · cases read

end Assembler
