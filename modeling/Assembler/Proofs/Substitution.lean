import Assembler.Proofs.Correspondence
import Assembler.Proofs.NormalForm

/-!
# Substitution of symbols

Two kinds of operands stand for addresses without being them: labels and literal addresses. A pass
over machine instructions puts addresses in their place and leaves everything else as it is:
`Filled` says so of a field, of a form and of an instruction at its place. After that no symbols are
left, and over instructions without symbols a pass does nothing, whatever the table is. So a second
pass returns what it is given, notes no use and gives no warning.
-/

namespace Assembler

/-! ## Symbols -/

/-- Whether an operand has to be replaced by an address. -/
def Operand.isSymbolic : Operand → Bool
  | .label _ | .fixed _ => true
  | _ => false

/-- A field in which an address may have taken the place of a symbol. -/
inductive Field.Filled : Field → Field → Prop
  | register (r : Register) : Filled (.register r) (.register r)
  | kept {o : Operand} (plain : o.isSymbolic = false) : Filled (.operand o) (.operand o)
  | replaced {o : Operand} (symbolic : o.isSymbolic = true) (address : Int) :
    Filled (.operand o) (.operand (.address address))

/-- A form of the same kind, with the same opcode and the same fields but for its symbols. -/
structure Form.Filled (form filled : Form) : Prop where
  shape : filled.shape = form.shape
  opcode : filled.opcode = form.opcode
  fields : List.Forall₂ (fun field other => other.1 = field.1 ∧ field.2.Filled other.2)
    form.fields filled.fields

/-- An instruction at the same place, with its symbols replaced. -/
structure PlacedInstruction.Filled (p filled : PlacedInstruction) : Prop where
  address : filled.address = p.address
  location : filled.location = p.location
  label : filled.label = p.label
  expandedFrom : filled.expandedFrom = p.expandedFrom
  instruction : ∃ form other, p.instruction = .form form ∧ filled.instruction = .form other ∧
    form.Filled other

/-- A form in which no operand is a symbol. -/
def Form.Plain (form : Form) : Prop := ∀ o ∈ form.operands, o.isSymbolic = false

/-- Whether an instruction is a machine instruction, with operands of the kinds that its fields are
made for. -/
def Instruction.isMachine : Instruction → Bool
  | .form f => !f.isPseudo && f.isWellFormed
  | .foreign _ => false

/-! ## Forms without symbols -/

theorem Operand.not_isSymbolic_of_isNumber {o : Operand} (number : o.isNumber = true) :
    o.isSymbolic = false := by
  cases o with
  | numeral | number => rfl
  | _ => cases number

namespace Form

variable {form filled : Form}

theorem Filled.refl (plain : form.Plain) : form.Filled form := by
  refine ⟨rfl, rfl, List.forall₂_same.mpr ?_⟩
  intro field member
  refine ⟨rfl, ?_⟩
  obtain ⟨name, field⟩ := field
  cases field with
  | register r => exact .register r
  | operand o => exact .kept (plain o (List.mem_filterMap.mpr ⟨_, member, rfl⟩))

/-- No symbols are left in a form in which they are replaced. -/
theorem Filled.plain (related : form.Filled filled) : filled.Plain := by
  intro o member
  obtain ⟨⟨name, field⟩, inside, isOperand⟩ := List.mem_filterMap.mp member
  obtain ⟨⟨_, source⟩, -, -, same⟩ := Correspondence.mem_right related.fields inside
  cases same with
  | register r => cases isOperand
  | kept plain =>
    cases isOperand
    exact plain
  | replaced symbolic address =>
    cases isOperand
    rfl

theorem Plain.label?_eq (plain : form.Plain) : form.label? = none := by
  cases form with
  | branch op r o | jump op o | loadImm op r o | setImm op r o =>
    have own := plain o (List.mem_singleton_self o)
    cases o with
    | label | fixed => cases own
    | _ => rfl
  | _ => rfl

end Form

namespace Resolution

variable {symbols : SymbolTable} {location : Option Location} {o resolved : Operand}
  {form final : Form}

/-! ## One operand -/

theorem finished_eq_ok_iff : finished location o = .ok resolved ↔
    o.isSymbolic = false ∧ resolved = o := by
  cases o with
  | fixed | label =>
    constructor
    · intro done
      simp only [finished] at done
      split at done <;> cases done
    · intro both
      cases both.1
  | _ => simp [finished, Operand.isSymbolic, eq_comm]

theorem filled_of_resolveTarget (done : resolveTarget symbols location o = .ok resolved) :
    Field.Filled (.operand o) (.operand resolved) := by
  cases o with
  | label name =>
    obtain ⟨s, -, rfl⟩ := resolveTarget_label.mp done
    exact .replaced rfl s.address
  | fixed value =>
    cases value with
    | number n =>
      cases done
      exact .replaced rfl n
    | _ => cases done
  | _ =>
    cases done
    exact .kept rfl

theorem filled_of_resolveLow (done : resolveLow symbols location o = .ok resolved) :
    Field.Filled (.operand o) (.operand resolved) := by
  cases o with
  | label name =>
    obtain ⟨s, -, rfl⟩ := resolveLow_label.mp done
    exact .replaced rfl _
  | numeral | number | fixed | address =>
    simp only [resolveLow, finished_eq_ok_iff] at done
    obtain ⟨plain, rfl⟩ := done
    exact .kept plain

theorem filled_of_resolveHigh (done : resolveHigh symbols location o = .ok resolved) :
    Field.Filled (.operand o) (.operand resolved) := by
  cases o with
  | label name =>
    obtain ⟨s, -, -, rfl⟩ := resolveHigh_label.mp done
    exact .replaced rfl _
  | numeral | number | fixed | address =>
    simp only [resolveHigh, finished_eq_ok_iff] at done
    obtain ⟨plain, rfl⟩ := done
    exact .kept plain

/-! ## One form -/

/-- Replacing the symbol of a machine instruction. The forms that are not looked at have none. -/
theorem filled_of_resolveForm (canonical : form.isPseudo = false)
    (wellFormed : form.isWellFormed = true)
    (done : resolveForm symbols location form = .ok final) : form.Filled final := by
  cases form with
  | branch op rs target =>
    obtain ⟨address, found, rfl⟩ := Outcome.map_eq_ok_iff.mp done
    exact ⟨rfl, rfl, .cons ⟨rfl, .register rs⟩
      (.cons ⟨rfl, filled_of_resolveTarget found⟩ .nil)⟩
  | jump op target =>
    obtain ⟨address, found, rfl⟩ := Outcome.map_eq_ok_iff.mp done
    exact ⟨rfl, rfl, .cons ⟨rfl, filled_of_resolveTarget found⟩ .nil⟩
  | loadImm op rd imm =>
    obtain ⟨low, found, rfl⟩ := Outcome.map_eq_ok_iff.mp done
    exact ⟨rfl, rfl, .cons ⟨rfl, .register rd⟩ (.cons ⟨rfl, filled_of_resolveLow found⟩ .nil)⟩
  | setImm op rd uimm =>
    obtain ⟨high, found, rfl⟩ := Outcome.map_eq_ok_iff.mp done
    exact ⟨rfl, rfl, .cons ⟨rfl, .register rd⟩ (.cons ⟨rfl, filled_of_resolveHigh found⟩ .nil)⟩
  | immSigned op rd rs imm | immUnsigned op rd rs imm | loadStore op rd imm rbase =>
    cases done
    apply Form.Filled.refl
    intro o member
    rw [List.mem_singleton.mp member]
    exact Operand.not_isSymbolic_of_isNumber wellFormed
  | push | pop | loadWord | loadAddress => cases canonical
  | _ =>
    cases done
    apply Form.Filled.refl
    intro o member
    cases member

/-- A form without symbols stays as it is. -/
theorem resolveForm_of_plain (plain : form.Plain) :
    resolveForm symbols location form = .ok form := by
  cases form with
  | branch op r o | jump op o | loadImm op r o | setImm op r o =>
    have own := plain o (List.mem_singleton_self o)
    cases o with
    | label | fixed => cases own
    | _ => rfl
  | _ => rfl

theorem noteUse_of_unlabelled {p : PlacedInstruction}
    (unlabelled : p.instruction.label? = none) : noteUse symbols p = symbols := by
  unfold noteUse
  rw [unlabelled]

theorem mismatch?_of_unlabelled {p : PlacedInstruction}
    (unlabelled : p.instruction.label? = none) : mismatch? symbols p = none := by
  unfold mismatch?
  split
  · rename_i name op isLoad _
    rw [isLoad] at unlabelled
    cases unlabelled
  · rfl

/-! ## The whole pass -/

/-- Over instructions without symbols a pass does nothing. -/
theorem resolve_of_plain {placed : List PlacedInstruction}
    (plain : ∀ p ∈ placed, ∃ form, p.instruction = .form form ∧ form.Plain)
    (symbols : SymbolTable) : resolve symbols placed = ⟨symbols, [], .ok placed⟩ := by
  induction placed with
  | nil => rfl
  | cons first rest ih =>
    obtain ⟨⟨form, isForm, own⟩, others⟩ := List.forall_mem_cons.mp plain
    have unlabelled : first.instruction.label? = none := by
      rw [isForm]
      exact own.label?_eq
    have done : resolveInstruction symbols first.location first.instruction =
        .ok first.instruction := by
      rw [isForm]
      exact resolveInstruction_form.mpr ⟨form, resolveForm_of_plain own, rfl⟩
    rw [resolve_cons_of_ok done, noteUse_of_unlabelled unlabelled,
      mismatch?_of_unlabelled unlabelled, ih others]
    rfl

theorem Resolves.filled {p q : PlacedInstruction} (machine : p.instruction.isMachine = true)
    (done : Resolves symbols p q) : p.Filled q := by
  obtain ⟨instruction, resolves, rfl⟩ := done
  refine ⟨rfl, rfl, rfl, rfl, ?_⟩
  cases body : p.instruction with
  | foreign thing =>
    rw [body] at machine
    cases machine
  | form f =>
    rw [body] at machine resolves
    obtain ⟨final, done, rfl⟩ := resolveInstruction_form.mp resolves
    simp only [Instruction.isMachine, Bool.and_eq_true, Bool.not_eq_true'] at machine
    exact ⟨f, final, rfl, rfl, filled_of_resolveForm machine.1 machine.2 done⟩

theorem filled_of_resolves {placed resolved : List PlacedInstruction}
    (machine : ∀ p ∈ placed, p.instruction.isMachine = true)
    (related : List.Forall₂ (Resolves symbols) placed resolved) :
    List.Forall₂ PlacedInstruction.Filled placed resolved := by
  induction related with
  | nil => exact .nil
  | cons first _ ih =>
    obtain ⟨own, others⟩ := List.forall_mem_cons.mp machine
    exact .cons (first.filled own) (ih others)

/-- A pass over machine instructions replaces their symbols by addresses and keeps the rest, in
order. No symbols are left, and a second pass with any table changes nothing at all. -/
theorem resolve_fills {placed resolved : List PlacedInstruction}
    (machine : ∀ p ∈ placed, p.instruction.isMachine = true)
    (done : (resolve symbols placed).outcome = .ok resolved) :
    List.Forall₂ PlacedInstruction.Filled placed resolved ∧
      (∀ p ∈ resolved, ∃ form, p.instruction = .form form ∧ form.Plain) ∧
      ∀ other, resolve other resolved = ⟨other, [], .ok resolved⟩ := by
  have filled : List.Forall₂ PlacedInstruction.Filled placed resolved :=
    filled_of_resolves machine (resolve_eq_ok_iff.mp done)
  have plain : ∀ p ∈ resolved, ∃ form, p.instruction = .form form ∧ form.Plain := by
    intro p member
    obtain ⟨source, -, same⟩ := Correspondence.mem_right filled member
    obtain ⟨form, final, -, isForm, related⟩ := same.instruction
    exact ⟨final, isForm, related.plain⟩
  exact ⟨filled, plain, resolve_of_plain plain⟩

/-- A table with a label of an instruction. -/
def loopTable : SymbolTable := { symbols := [⟨"loop", 0x18000, .instructions, ⟨.instructions, 0⟩⟩] }

/-- Instructions with symbols of both kinds, and with operands that are none. The load has a label
of the wrong segment. -/
def mixture : List PlacedInstruction :=
  [⟨0x18000, .form (.branch .bez .t0 (.label "loop")), some ⟨.instructions, 0⟩, some "loop", none⟩,
    ⟨0x18004, .form (.jump .jmp (.fixed (.number 64))), some ⟨.instructions, 1⟩, none, none⟩,
    ⟨0x18008, .form (.loadImm .li .a0 (.label "loop")), some ⟨.instructions, 2⟩, none, some .lda⟩,
    ⟨0x1800c, .form (.setImm .lhi .a0 (.label "loop")), some ⟨.instructions, 2⟩, none, some .lda⟩,
    ⟨0x18010, .form (.immSigned .addi .a0 .a0 (.number (-1))), none, none, none⟩,
    ⟨0x18014, .form (.jump .jal (.address 8)), none, none, none⟩]

/-- The first pass notes three uses and gives a warning, and the second one does neither. -/
theorem resolve_fills_mixture :
    (∀ p ∈ mixture, p.instruction.isMachine = true) ∧
      (resolve loopTable mixture).symbols ≠ loopTable ∧
      (resolve loopTable mixture).warnings.length = 1 ∧
      ∃ resolved, (resolve loopTable mixture).outcome = .ok resolved ∧
        List.Forall₂ PlacedInstruction.Filled mixture resolved ∧
        resolve {} resolved = ⟨{}, [], .ok resolved⟩ := by
  have machine : ∀ p ∈ mixture, p.instruction.isMachine = true := by decide
  have done : (resolve loopTable mixture).outcome = .ok
      [⟨0x18000, .form (.branch .bez .t0 (.address 0x18000)), some ⟨.instructions, 0⟩,
          some "loop", none⟩,
        ⟨0x18004, .form (.jump .jmp (.address 64)), some ⟨.instructions, 1⟩, none, none⟩,
        ⟨0x18008, .form (.loadImm .li .a0 (.address 0x8000)), some ⟨.instructions, 2⟩, none,
          some .lda⟩,
        ⟨0x1800c, .form (.setImm .lhi .a0 (.address 1)), some ⟨.instructions, 2⟩, none,
          some .lda⟩,
        ⟨0x18010, .form (.immSigned .addi .a0 .a0 (.number (-1))), none, none, none⟩,
        ⟨0x18014, .form (.jump .jal (.address 8)), none, none, none⟩] := rfl
  obtain ⟨filled, -, again⟩ := resolve_fills machine done
  exact ⟨machine, by decide, rfl, _, done, filled, again {}⟩

end Resolution

end Assembler
