import Assembler.Proofs.Checking
import Assembler.Proofs.Quantities

/-!
# Normal forms

An expansion is final. The forms that it yields are machine instructions without literals, and each
of them expands to itself, so expanding twice is the same as expanding once. This rests on a fact
about every branch of the expansion: the numbers that it emits lie in the ranges that the checks of
the machine instructions ask for. It needs the magnitudes of literals to be absolute values, as they
are in every literal that is read.

The branch with the most to it is the load of a word. A word that is no immediate is loaded by two
halves, the lower one as a signed immediate, and the halves join to the word again.
-/

namespace Assembler

/-! ## Loads of words -/

/-- A value that a signed field has taken lies in the range of the field and has the bits of the
number that was written. -/
theorem Operand.fit_signed_bits {o : Operand} {width : Nat} (field : FieldWidth width)
    {location : Option Location} {value : Int} (fit : o.fit width .signed location = .ok value) :
    (Bits.signedRange width).holds value = true ∧
      Bits.toUnsigned value width = Bits.toUnsigned o.amount width := by
  rw [fit_signed field fit]
  refine ⟨?_, Bits.toUnsigned_signExtend o.amount width⟩
  exact Bits.signedRange_holds_iff.mpr (Bits.signExtend_range o.amount field.pos)

namespace Form

theorem fitsImmediate_iff {value : Int} :
    fitsImmediate value = true ↔ -2 ^ 15 ≤ value ∧ value ≤ 2 ^ 15 - 1 := by
  rw [fitsImmediate, Bits.signedRange_immediate, Range.holds_iff]

/-- How some instructions load a value into a register: as an immediate, exactly if the value is
one, and otherwise by the halves of a word. -/
structure LoadsWord (w : WordSize) (rd : Register) (value : Int) (forms : List Form) : Prop where
  immediate_iff : forms = [.loadImm .li rd (.number value)] ↔ -2 ^ 15 ≤ value ∧ value ≤ 2 ^ 15 - 1
  immediate_of_bits16 : w = .bits16 → forms = [.loadImm .li rd (.number value)]
  halves : forms ≠ [.loadImm .li rd (.number value)] →
    ∃ low high, forms = [.loadImm .li rd (.number low), .setImm .lhi rd (.number high)] ∧
      (-2 ^ 15 ≤ low ∧ low ≤ 2 ^ 15 - 1) ∧ (0 ≤ high ∧ high ≤ 2 ^ 16 - 1) ∧
      Bits.join (Bits.toUnsigned low 16) high 16 = value % 2 ^ w.bits

variable {w : WordSize} {rd : Register} {value : Int}

/-- The halves of a word, the lower one taken as a signed number, join to the word. -/
theorem join_halves (word : Int) :
    Bits.join
      (Bits.toUnsigned (Bits.signExtend (Bits.split word Bits.immediateWidth).1
        Bits.immediateWidth) Bits.immediateWidth)
      (Bits.split word Bits.immediateWidth).2 Bits.immediateWidth = word := by
  rw [Bits.toUnsigned_signExtend, Bits.join_toUnsigned]
  exact Bits.join_split word Bits.immediateWidth

/-- The two instructions that load the halves of a word. -/
theorem loadsWord_halves (large : fitsImmediate value = false) (wide : w ≠ .bits16) :
    LoadsWord w rd value (loadWordForms rd value w.bits) := by
  have word := Bits.toUnsigned_range value w.bits
  have low := Bits.signExtend_range (Bits.split (Bits.toUnsigned value w.bits)
    Bits.immediateWidth).1 FieldWidth.immediate.pos
  have high := highHalf_holds word.1 word.2
  rw [← Bits.signedRange_holds_iff, Bits.signedRange_immediate, Range.holds_iff] at low
  rw [Bits.unsignedRange_immediate, Range.holds_iff] at high
  have joined := join_halves (Bits.toUnsigned value w.bits)
  have forms : loadWordForms rd value w.bits ≠ [.loadImm .li rd (.number value)] := by
    simp [loadWordForms, large]
  refine ⟨⟨fun single => absurd single forms, ?_⟩, fun narrow => absurd narrow wide, ?_⟩
  · intro small
    rw [← fitsImmediate_iff, large] at small
    cases small
  · intro _
    refine ⟨_, _, by simp only [loadWordForms, large, Bool.false_eq_true, if_false], low, high, ?_⟩
    rw [← Bits.patterns_eq]
    exact joined

theorem loadsWord_loadWordForms (inside : (Bits.signedRange w.bits).holds value = true) :
    LoadsWord w rd value (loadWordForms rd value w.bits) := by
  by_cases small : fitsImmediate value = true
  · have single : loadWordForms rd value w.bits = [.loadImm .li rd (.number value)] := by
      simp [loadWordForms, small]
    rw [single]
    refine ⟨⟨fun _ => fitsImmediate_iff.mp small, fun _ => rfl⟩, fun _ => rfl, ?_⟩
    intro other
    exact absurd rfl other
  · apply loadsWord_halves (Bool.eq_false_iff.mpr small)
    intro narrow
    subst narrow
    exact small inside

/-- A word that is accepted is the signed number with the bits that were written, and the
instructions for it load exactly this number. -/
theorem expand_loadWord {imm : Operand} {location : Option Location}
    (accepted : imm.fit w.bits .signed location = .ok value) (rd : Register) :
    (-2 ^ (w.bits - 1) ≤ value ∧ value ≤ 2 ^ (w.bits - 1) - 1) ∧
      value % 2 ^ w.bits = imm.amount % 2 ^ w.bits ∧
      ∃ forms, (loadWord rd imm).expand w.bits location = .ok forms ∧
        LoadsWord w rd value forms := by
  obtain ⟨inside, bits⟩ := Operand.fit_signed_bits w.fieldWidth accepted
  have range := Range.holds_iff.mp inside
  simp only [Bits.signedRange, Bits.toUnsigned, Bits.patterns_eq] at range bits
  have expanded : (loadWord rd imm).expand w.bits location =
      .ok (loadWordForms rd value w.bits) := by
    simp only [expand, accepted, Except.map, Int.toNat_natCast]
  exact ⟨range, bits, _, expanded, loadsWord_loadWordForms inside⟩

/-- A word whose lower half is a negative number. -/
def loadHalves : Form := .loadWord .v0 (.numeral ⟨.hex, 0x12348000, false, "0x12348000"⟩)

theorem expand_loadWord_halves :
    loadHalves.expand 32 none =
        .ok [.loadImm .li .v0 (.number (-0x8000)), .setImm .lhi .v0 (.number 0x1234)] ∧
      LoadsWord .bits32 .v0 0x12348000
        [.loadImm .li .v0 (.number (-0x8000)), .setImm .lhi .v0 (.number 0x1234)] := by
  have accepted : (Operand.numeral ⟨.hex, 0x12348000, false, "0x12348000"⟩).fit
      WordSize.bits32.bits .signed none = .ok 0x12348000 := rfl
  have expanded : loadHalves.expand 32 none =
      .ok [.loadImm .li .v0 (.number (-0x8000)), .setImm .lhi .v0 (.number 0x1234)] := rfl
  obtain ⟨-, -, forms, same, loads⟩ := expand_loadWord accepted .v0
  have evaluated := Except.ok.inj (same.symm.trans expanded)
  exact ⟨expanded, evaluated ▸ loads⟩

end Form

/-! ## Operands and the fields that take them -/

namespace Operand

/-- Whether an operand stands for an address that a label gives, found or still to be looked up. -/
def isReference : Operand → Bool
  | .label _ | .address _ => true
  | _ => false

/-- Whether an operand can be loaded: a number, or half of the address of a label. -/
def isLoadable (o : Operand) : Bool := o.isNumber || o.isReference

/-- Whether an operand can be jumped to: a literal address, or the address of a label. -/
def isTarget : Operand → Bool
  | .fixed value => value.isNumber
  | other => other.isReference

/-- The literals in an operand. -/
def literals : Operand → List Literal
  | .numeral l => [l]
  | .fixed value => value.literals
  | _ => []

/-- The magnitudes of the literals in an operand are absolute values. -/
def Absolute (o : Operand) : Prop := ∀ l ∈ o.literals, l.Absolute

end Operand

/-- The operand of a field, unless it is a register. -/
def Field.operand? : Field → Option Operand
  | .register _ => none
  | .operand o => some o

namespace Form

/-- The operands of a form besides its registers. -/
def operands (form : Form) : List Operand := form.fields.filterMap fun field => field.2.operand?

/-- The literals in a form. -/
def literals (form : Form) : List Literal := form.operands.flatMap Operand.literals

/-- The magnitudes of the literals in a form are absolute values. -/
def Absolute (form : Form) : Prop := ∀ l ∈ form.literals, l.Absolute

/-- Whether the operands of a form are of the kinds that its fields are made for. -/
def isWellFormed : Form → Bool
  | .immSigned _ _ _ o | .immUnsigned _ _ _ o | .loadStore _ _ o _ | .loadWord _ o => o.isNumber
  | .loadImm _ _ o | .setImm _ _ o => o.isLoadable
  | .branch _ _ target | .jump _ target => target.isTarget
  | .loadAddress _ _ target => target.label?.isSome
  | _ => true

end Form

/-! ## Operands in normal form -/

namespace Operand

/-- The operand of a load in normal form: a number of the range, or the address of a label. -/
def NormalLoad (o : Operand) (signedness : Signedness) : Prop :=
  o.isReference = true ∨ o.NumberIn (signedness.range Bits.immediateWidth)

/-- A jump target in normal form: a literal address of a word, or the address of a label. -/
def NormalTarget (o : Operand) (bits : Nat) : Prop :=
  o.isReference = true ∨ ∃ value, o = .fixed value ∧ value.NumberIn (Signedness.unsigned.range bits)

variable {o checked : Operand} {signedness : Signedness} {w : WordSize}
  {location : Option Location}

theorem NumberIn.literals_eq {range : Range} (number : o.NumberIn range) : o.literals = [] := by
  obtain ⟨n, rfl, -⟩ := number
  rfl

theorem literals_of_isReference (reference : o.isReference = true) : o.literals = [] := by
  cases o with
  | label | address => rfl
  | _ => cases reference

theorem NormalLoad.literals_eq (normal : o.NormalLoad signedness) : o.literals = [] := by
  rcases normal with reference | number
  · exact literals_of_isReference reference
  · exact number.literals_eq

theorem NormalTarget.literals_eq (normal : o.NormalTarget w.bits) : o.literals = [] := by
  rcases normal with reference | ⟨value, rfl, number⟩
  · exact literals_of_isReference reference
  · exact number.literals_eq

/-! ### Operands in normal form are checked to be themselves -/

theorem NumberIn.fit_eq {width : Nat} (field : FieldWidth width)
    (number : o.NumberIn (signedness.range width)) (location : Option Location) :
    ∃ n, o = .number n ∧ o.fit width signedness location = .ok n := by
  obtain ⟨n, rfl, inside⟩ := number
  exact ⟨n, rfl, (fit_eq_ok_iff field).mpr (.inr ⟨rfl, inside⟩)⟩

theorem NumberIn.checkImmediate_eq
    (number : o.NumberIn (signedness.range Bits.immediateWidth)) (location : Option Location) :
    o.checkImmediate signedness location = .ok o := by
  obtain ⟨n, rfl, fit⟩ := number.fit_eq FieldWidth.immediate location
  simp only [checkImmediate, fit, Except.map]

theorem NormalLoad.checkLoad_eq (normal : o.NormalLoad signedness) (location : Option Location) :
    o.checkLoad signedness location = .ok o := by
  rcases normal with reference | number
  · cases o with
    | label | address => rfl
    | _ => cases reference
  · have checked := number.checkImmediate_eq location
    obtain ⟨n, rfl, -⟩ := number
    exact checked

theorem NormalTarget.checkTarget_eq (normal : o.NormalTarget w.bits)
    (location : Option Location) : o.checkTarget w.bits location = .ok o := by
  rcases normal with reference | ⟨value, rfl, number⟩
  · cases o with
    | label | address => rfl
    | _ => cases reference
  · obtain ⟨n, rfl, fit⟩ := number.fit_eq w.fieldWidth location
    simp only [checkTarget, fit, Except.map]

/-! ### Checks bring operands into normal form -/

/-- The value that a field takes from a number lies in the range of the field. -/
theorem fit_range {width : Nat} (field : FieldWidth width) {value : Int}
    (absolute : o.Absolute)
    (fit : o.fit width signedness location = .ok value) :
    (signedness.range width).holds value = true := by
  rcases (fit_eq_ok_iff field).mp fit with ⟨l, rfl, interpreted⟩ | ⟨-, inside⟩
  · exact Literal.interpret_range (absolute l (List.mem_singleton_self l)) field.pos interpreted
  · exact inside

theorem numberIn_of_checkImmediate (absolute : o.Absolute)
    (done : o.checkImmediate signedness location = .ok checked) :
    checked.NumberIn (signedness.range Bits.immediateWidth) := by
  obtain ⟨value, fit, rfl⟩ := Outcome.map_eq_ok_iff.mp done
  exact ⟨value, rfl, fit_range .immediate absolute fit⟩

theorem normalLoad_of_checkLoad (loadable : o.isLoadable = true)
    (absolute : o.Absolute)
    (done : o.checkLoad signedness location = .ok checked) : checked.NormalLoad signedness := by
  unfold checkLoad at done
  by_cases number : o.isNumber = true
  · rw [if_pos number] at done
    exact .inr (numberIn_of_checkImmediate absolute done)
  · rw [if_neg number] at done
    cases done
    left
    simpa [isLoadable, number] using loadable

theorem normalTarget_of_checkTarget (target : o.isTarget = true)
    (absolute : o.Absolute)
    (done : o.checkTarget w.bits location = .ok checked) : checked.NormalTarget w.bits := by
  cases o with
  | fixed value =>
    have own : value.Absolute := absolute
    obtain ⟨n, fit, rfl⟩ := Outcome.map_eq_ok_iff.mp done
    exact .inr ⟨_, rfl, n, rfl, fit_range w.fieldWidth own fit⟩
  | _ =>
    cases done
    exact .inl target

end Operand

/-! ## Forms in normal form -/

namespace Form

variable {form g : Form} {forms : List Form} {w : WordSize} {location : Option Location}

/-- A machine instruction in which nothing is left to be checked: its numbers are computed and lie
in the ranges of their fields. -/
def Normal (bits : Nat) : Form → Prop
  | .immSigned _ _ _ o | .loadStore _ _ o _ =>
    o.NumberIn (Signedness.signed.range Bits.immediateWidth)
  | .immUnsigned _ _ _ o => o.NumberIn (Signedness.unsigned.range Bits.immediateWidth)
  | .loadImm _ _ o => o.NormalLoad .signed
  | .setImm _ _ o => o.NormalLoad .unsigned
  | .branch _ _ target | .jump _ target => target.NormalTarget bits
  | .push _ | .pop _ | .loadWord .. | .loadAddress .. => False
  | _ => True

theorem Normal.canonical (normal : g.Normal w.bits) : g.isPseudo = false := by
  cases g with
  | push | pop | loadWord | loadAddress => exact normal.elim
  | _ => rfl

theorem Normal.literals_eq (normal : g.Normal w.bits) : g.literals = [] := by
  cases g with
  | immSigned | immUnsigned | loadStore | loadImm | setImm | branch | jump =>
    simpa [literals, operands, fields, Field.operand?] using normal.literals_eq
  | push | pop | loadWord | loadAddress => exact normal.elim
  | _ => rfl

theorem Normal.expand_eq (normal : g.Normal w.bits) (location : Option Location) :
    g.expand w.bits location = .ok [g] := by
  rw [expand_of_canonical normal.canonical]
  cases g with
  | immSigned | immUnsigned | loadStore =>
    simp only [checkOperands, normal.checkImmediate_eq, Except.map]
  | loadImm | setImm => simp only [checkOperands, normal.checkLoad_eq, Except.map]
  | branch | jump => simp only [checkOperands, normal.checkTarget_eq, Except.map]
  | push | pop | loadWord | loadAddress => exact normal.elim
  | _ => rfl

/-- Forms that were checked before their labels are looked up are in normal form. -/
theorem Checked.normal (checked : g.Checked w.bits) : g.Normal w.bits := by
  have label : ∀ o : Operand, (∃ name, o = .label name) → o.isReference = true := by
    intro o named
    obtain ⟨name, rfl⟩ := named
    rfl
  cases g with
  | loadImm op rd o | setImm op rd o => exact checked.imp_left (label o)
  | branch op rs target | jump op target => exact checked.imp_left (label target)
  | push | pop | loadWord | loadAddress => exact checked.elim
  | _ => exact checked

theorem normal_of_checkOperands {checked : Form} (wellFormed : form.isWellFormed = true)
    (absolute : form.Absolute) (canonical : form.isPseudo = false)
    (done : form.checkOperands w.bits location = .ok checked) : checked.Normal w.bits := by
  have own : ∀ o ∈ form.operands, o.Absolute := by
    intro o member l inside
    exact absolute l (List.mem_flatMap.mpr ⟨o, member, inside⟩)
  cases form with
  | immSigned op rd rs o | immUnsigned op rd rs o | loadStore op rd o rbase =>
    obtain ⟨number, check, rfl⟩ := Outcome.map_eq_ok_iff.mp done
    exact Operand.numberIn_of_checkImmediate (own o (List.mem_singleton_self o)) check
  | loadImm op rd o | setImm op rd o =>
    obtain ⟨loaded, check, rfl⟩ := Outcome.map_eq_ok_iff.mp done
    exact Operand.normalLoad_of_checkLoad wellFormed (own o (List.mem_singleton_self o)) check
  | branch op rs o | jump op o =>
    obtain ⟨target, check, rfl⟩ := Outcome.map_eq_ok_iff.mp done
    exact Operand.normalTarget_of_checkTarget wellFormed (own o (List.mem_singleton_self o)) check
  | push | pop | loadWord | loadAddress => cases canonical
  | _ =>
    cases done
    trivial

/-- Every branch of the expansion yields normal forms. -/
theorem normal_of_expand (wellFormed : form.isWellFormed = true)
    (absolute : form.Absolute)
    (expanded : form.expand w.bits location = .ok forms) : ∀ g ∈ forms, g.Normal w.bits := by
  cases pseudo : form.isPseudo with
  | false =>
    rw [expand_of_canonical pseudo] at expanded
    obtain ⟨checked, done, rfl⟩ := Outcome.map_eq_ok_iff.mp expanded
    intro g member
    rw [List.mem_singleton.mp member]
    exact normal_of_checkOperands wellFormed absolute pseudo done
  | true =>
    intro g member
    cases form with
    | push rd =>
      have read : (push rd).WasRead := ⟨rfl, trivial⟩
      exact (read.expand_checked expanded g member).1.normal
    | pop rd =>
      have read : (pop rd).WasRead := ⟨rfl, trivial⟩
      exact (read.expand_checked expanded g member).1.normal
    | loadWord rd imm =>
      obtain ⟨value, -, rfl⟩ := Outcome.map_eq_ok_iff.mp expanded
      rw [Int.toNat_natCast] at member
      exact (loadWordForms_checked rd value g member).1.normal
    | loadAddress op rd target =>
      cases target with
      | label name =>
        -- The expansion does not look at the opcode, so it may as well be one that can be read.
        have alike : (loadAddress .lda rd (.label name)).expand w.bits location = .ok forms :=
          expanded
        have read : (loadAddress .lda rd (.label name)).WasRead := ⟨rfl, name, rfl⟩
        exact (read.expand_checked alike g member).1.normal
      | _ => cases wellFormed
    | _ => cases pseudo

/-- An expansion is a normal form if the magnitudes of the literals are absolute values: it holds
machine instructions without literals, and each of them expands to itself wherever it stands. -/
theorem expand_normalForm (wellFormed : form.isWellFormed = true)
    (absolute : form.Absolute)
    (expanded : form.expand w.bits location = .ok forms) :
    ∀ g ∈ forms, g.isPseudo = false ∧ g.literals = [] ∧
      ∀ anywhere, g.expand w.bits anywhere = .ok [g] := by
  intro g member
  have normal := normal_of_expand wellFormed absolute expanded g member
  exact ⟨normal.canonical, normal.literals_eq, normal.expand_eq⟩

theorem expand_normalForm_halves :
    loadHalves.isWellFormed = true ∧ loadHalves.literals ≠ [] ∧
      ∃ forms, loadHalves.expand 32 none = .ok forms ∧ forms.length = 2 ∧
        ∀ g ∈ forms, g.isPseudo = false ∧ g.literals = [] ∧
          ∀ anywhere, g.expand 32 anywhere = .ok [g] := by
  have absolute : loadHalves.Absolute := by
    unfold Absolute
    decide
  have expanded : loadHalves.expand WordSize.bits32.bits none =
      .ok [.loadImm .li .v0 (.number (-0x8000)), .setImm .lhi .v0 (.number 0x1234)] := rfl
  exact ⟨rfl, by decide, _, expanded, rfl, expand_normalForm rfl absolute expanded⟩

/-- A mask that is put together with a negative magnitude. -/
def negativeMask : Form := .immUnsigned .andi .v0 .v0 (.numeral ⟨.hex, -1, false, []⟩)

/-- A magnitude below zero passes the check of a marked literal, which only looks at the upper end
of the field. The number that is left does not pass the check of a computed one. -/
theorem not_normalForm_of_negative_magnitude :
    negativeMask.isWellFormed = true ∧
      negativeMask.expand 32 none = .ok [.immUnsigned .andi .v0 .v0 (.number (-1))] ∧
      (Form.immUnsigned .andi .v0 .v0 (.number (-1))).expand 32 none =
        .error (.located none (.overflow ⟨some "-1", 16, .unsigned, ⟨0, 0xFFFF⟩⟩)) := by
  have shown : (Operand.number (-1)).text? = some ("-1" : Text) :=
    Text.decimal?_of_isWritable (Text.isWritable_of_small (by decide) (by decide))
  have misfit : Operand.fit (.number (-1)) Bits.immediateWidth .unsigned none =
      .error (.located none (.overflow ⟨some "-1", 16, .unsigned, ⟨0, 0xFFFF⟩⟩)) := by
    have numeric : (Operand.number (-1)).Numeric := trivial
    refine (numeric.fit_refuses_iff .immediate (by decide)).mpr ⟨by decide, ?_⟩
    simp only [Quantity.misfit, shown]
    rfl
  refine ⟨rfl, rfl, ?_⟩
  rw [expand_of_canonical rfl]
  simp only [checkOperands, Operand.checkImmediate, misfit, Except.map]

end Form

end Assembler
