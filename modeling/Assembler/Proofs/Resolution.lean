import Assembler.Resolution
import Assembler.Proofs.Expansion
import Assembler.Proofs.SymbolTable

/-!
# Laws of the resolution

The second pass treats each instruction by itself: what it makes of one depends on the symbols of
the table only, which noting uses does not change. So the outcome is that of a map over the
instructions, or the error of the first of them that has one. The names in use after a pass are
those before it and the labels of the instructions.
-/

namespace Assembler

namespace Resolution

variable {symbols other : SymbolTable} {location : Option Location}

/-! ## One instruction -/

/-- An instruction with its label operand replaced; nothing else changes. -/
def Resolves (symbols : SymbolTable) (placed resolved : PlacedInstruction) : Prop :=
  ∃ instruction, resolveInstruction symbols placed.location placed.instruction = .ok instruction ∧
    resolved = { placed with instruction }

@[simp] theorem noteUse_symbols {placed : PlacedInstruction} :
    (noteUse symbols placed).symbols = symbols.symbols := by
  unfold noteUse
  split <;> rfl

@[simp] theorem noteUse_frozen {placed : PlacedInstruction} :
    (noteUse symbols placed).frozen = symbols.frozen := by
  unfold noteUse
  split <;> rfl

/-- Only the symbols of the table matter to an instruction. -/
theorem resolveInstruction_congr (same : symbols.symbols = other.symbols) :
    resolveInstruction symbols = resolveInstruction other := by
  have lookups : ∀ name place, symbols.lookup name place = other.lookup name place :=
    fun name place => SymbolTable.lookup_congr same
  have targets : ∀ place, resolveTarget symbols place = resolveTarget other place := by
    intro place
    funext o
    unfold resolveTarget
    simp only [lookups]
  funext place i
  cases i with
  | foreign thing => rfl
  | form f => cases f <;> simp only [resolveInstruction, resolveForm, targets, resolveLow,
      resolveHigh, lookups]

theorem resolves_congr (same : symbols.symbols = other.symbols) :
    Resolves symbols = Resolves other := by
  unfold Resolves
  rw [resolveInstruction_congr same]

/-- Replacing an operand changes neither the opcode nor the shape of a form. -/
theorem resolveForm_frame {form resolved : Form}
    (done : resolveForm symbols location form = .ok resolved) :
    resolved.opcode = form.opcode ∧ resolved.shape = form.shape := by
  cases form with
  | branch | jump | loadImm | setImm =>
    obtain ⟨_, -, rfl⟩ := Outcome.map_eq_ok_iff.mp done
    exact ⟨rfl, rfl⟩
  | _ =>
    cases done
    exact ⟨rfl, rfl⟩

theorem resolveInstruction_form {form : Form} {resolved : Instruction} :
    resolveInstruction symbols location (.form form) = .ok resolved ↔
      ∃ f, resolveForm symbols location form = .ok f ∧ resolved = .form f := by
  simp only [resolveInstruction, Outcome.map_eq_ok_iff]

/-! ## One operand -/

theorem resolveTarget_label {name : Text} {o : Operand} :
    resolveTarget symbols location (.label name) = .ok o ↔
      ∃ s, symbols.find? name = some s ∧ o = .address s.address := by
  simp only [resolveTarget, Outcome.map_eq_ok_iff, SymbolTable.lookup_eq_ok_iff]

theorem resolveLow_label {name : Text} {o : Operand} :
    resolveLow symbols location (.label name) = .ok o ↔
      ∃ s, symbols.find? name = some s ∧
        o = .address (Bits.split s.address Bits.immediateWidth).1 := by
  simp only [resolveLow, Outcome.map_eq_ok_iff, SymbolTable.lookup_eq_ok_iff]

/-- The high half of an address is taken if it fits 16 bits. -/
theorem resolveHigh_label {name : Text} {o : Operand} :
    resolveHigh symbols location (.label name) = .ok o ↔
      ∃ s, symbols.find? name = some s ∧
        (Bits.unsignedRange Bits.immediateWidth).holds
          (Bits.split s.address Bits.immediateWidth).2 = true ∧
        o = .address (Bits.split s.address Bits.immediateWidth).2 := by
  simp only [resolveHigh]
  cases found : symbols.lookup name location with
  | error e =>
    have absent := (SymbolTable.lookup_eq_error_iff.mp found).1
    simp [SymbolTable.find?_eq_none_iff.mpr absent]
  | ok s =>
    have present := SymbolTable.lookup_eq_ok_iff.mp found
    simp only [Outcome.map_eq_ok_iff, requireFitsAt_eq_ok_iff FieldWidth.immediate, present,
      Option.some.injEq, Signedness.range]
    constructor
    · rintro ⟨_, ⟨inside, rfl⟩, rfl⟩
      exact ⟨s, rfl, inside, rfl⟩
    · rintro ⟨_, rfl, inside, rfl⟩
      exact ⟨_, ⟨inside, rfl⟩, rfl⟩

/-- The label of an instruction that is resolved is defined. -/
theorem Resolves.label_mem {placed resolved : PlacedInstruction} {name : Text}
    (done : Resolves symbols placed resolved)
    (label : placed.instruction.label? = some name) : name ∈ symbols.names := by
  obtain ⟨instruction, resolves, -⟩ := done
  have of_label : ∀ o : Operand, o.label? = some name → o = .label name := by
    intro o same
    cases o <;> simp [Operand.label?] at same
    rw [same]
  rw [← SymbolTable.find?_isSome_iff]
  cases body : placed.instruction with
  | foreign thing => simp [body, Instruction.label?] at label
  | form f =>
    rw [body] at label resolves
    obtain ⟨g, resolves, -⟩ := resolveInstruction_form.mp resolves
    cases f with
    | branch _ _ target | jump _ target =>
      obtain ⟨o, found, -⟩ := Outcome.map_eq_ok_iff.mp resolves
      rw [of_label target label, resolveTarget_label] at found
      exact found.imp fun _ => And.left
    | loadImm op rd imm =>
      obtain ⟨o, found, -⟩ := Outcome.map_eq_ok_iff.mp resolves
      rw [of_label imm label, resolveLow_label] at found
      exact found.imp fun _ => And.left
    | setImm op rd uimm =>
      obtain ⟨o, found, -⟩ := Outcome.map_eq_ok_iff.mp resolves
      rw [of_label uimm label, resolveHigh_label] at found
      exact found.imp fun _ => And.left
    | _ => simp [Instruction.label?, Form.label?] at label

/-! ## One statement -/

/-- Forms with their label operands replaced. -/
def ResolvesForms (symbols : SymbolTable) (location : Option Location) :
    List Form → List Form → Prop :=
  List.Forall₂ fun form resolved => resolveForm symbols location form = .ok resolved

/-- In the block of a statement, its forms are resolved. -/
theorem resolvesForms_of_placeForms {place : Location} {bits address : Int}
    {expandedFrom : Option Opcode} {label : Option Text} {forms : List Form}
    {block : List PlacedInstruction}
    (related : List.Forall₂ (Resolves symbols)
      (placeForms bits place expandedFrom address label forms) block) :
    ∃ resolved, ResolvesForms symbols place forms resolved ∧
      block.map PlacedInstruction.instruction = resolved.map .form := by
  induction forms generalizing address label block with
  | nil =>
    cases related
    exact ⟨[], .nil, rfl⟩
  | cons form rest ih =>
    obtain ⟨q, tail, ⟨instruction, done, rfl⟩, others, rfl⟩ :=
      List.forall₂_cons_left_iff.mp related
    obtain ⟨g, first, rfl⟩ := resolveInstruction_form.mp done
    obtain ⟨resolved, later, same⟩ := ih others
    exact ⟨g :: resolved, .cons first later, by simp [same]⟩

/-- A machine instruction is checked and resolved by itself. -/
theorem ResolvesForms.of_canonical {form : Form} {forms resolved : List Form} {bits : Int}
    (canonical : form.isPseudo = false) (expanded : form.expand bits location = .ok forms)
    (resolves : ResolvesForms symbols location forms resolved) :
    ∃ checked final, form.checkOperands bits location = .ok checked ∧
      resolveForm symbols location checked = .ok final ∧ resolved = [final] := by
  rw [Form.expand_of_canonical canonical] at expanded
  obtain ⟨checked, check, rfl⟩ := Outcome.map_eq_ok_iff.mp expanded
  obtain ⟨final, rest, first, others, rfl⟩ := List.forall₂_cons_left_iff.mp resolves
  cases others
  exact ⟨checked, final, check, first, rfl⟩

/-- Replacing labels leaves the labels of the statements. -/
theorem filterMap_label {placed resolved : List PlacedInstruction}
    (related : List.Forall₂ (Resolves symbols) placed resolved) :
    resolved.filterMap PlacedInstruction.label = placed.filterMap PlacedInstruction.label := by
  induction related with
  | nil => rfl
  | cons first _ ih =>
    obtain ⟨instruction, -, rfl⟩ := first
    rw [List.filterMap_cons, List.filterMap_cons, ih]

end Resolution

/-! ## The whole pass -/

section Pass

open Resolution

variable {symbols : SymbolTable} {placed resolved : List PlacedInstruction}

/-- A pass stops at an instruction that cannot be resolved, and has noted its label. -/
theorem resolve_cons_of_error {first : PlacedInstruction} {e : Error}
    (failed : resolveInstruction symbols first.location first.instruction = .error e)
    (rest : List PlacedInstruction) :
    resolve symbols (first :: rest) = ⟨noteUse symbols first, [], .error e⟩ := by
  have same : (noteUse symbols first).symbols = symbols.symbols := noteUse_symbols
  simp only [resolve, resolveInstruction_congr same, failed]

/-- A pass goes on after an instruction that was resolved. -/
theorem resolve_cons_of_ok {first : PlacedInstruction} {instruction : Instruction}
    (done : resolveInstruction symbols first.location first.instruction = .ok instruction)
    (rest : List PlacedInstruction) :
    resolve symbols (first :: rest) =
      ⟨(resolve (noteUse symbols first) rest).symbols,
        (mismatch? (noteUse symbols first) first).toList ++
          (resolve (noteUse symbols first) rest).warnings,
        (resolve (noteUse symbols first) rest).outcome.map fun resolved =>
          { first with instruction } :: resolved⟩ := by
  have same : (noteUse symbols first).symbols = symbols.symbols := noteUse_symbols
  simp only [resolve, resolveInstruction_congr same, done]

theorem resolve_frame (symbols : SymbolTable) (placed : List PlacedInstruction) :
    (resolve symbols placed).symbols.symbols = symbols.symbols ∧
      (resolve symbols placed).symbols.frozen = symbols.frozen := by
  induction placed generalizing symbols with
  | nil => exact ⟨rfl, rfl⟩
  | cons first rest ih =>
    simp only [resolve]
    split
    · simp
    · simpa using ih (noteUse symbols first)

/-- A pass succeeds if every instruction can be resolved, and then yields all of them in order. -/
theorem resolve_eq_ok_iff :
    (resolve symbols placed).outcome = .ok resolved ↔
      List.Forall₂ (Resolves symbols) placed resolved := by
  induction placed generalizing symbols resolved with
  | nil => simp [resolve, eq_comm]
  | cons first rest ih =>
    have same : (noteUse symbols first).symbols = symbols.symbols := noteUse_symbols
    simp only [resolve, List.forall₂_cons_left_iff, resolveInstruction_congr same]
    cases done : resolveInstruction symbols first.location first.instruction with
    | error e => simp [Resolves, done]
    | ok instruction =>
      simp only [Outcome.map_eq_ok_iff, ih, resolves_congr same]
      constructor
      · rintro ⟨tail, others, rfl⟩
        exact ⟨_, tail, ⟨instruction, done, rfl⟩, others, rfl⟩
      · rintro ⟨_, tail, ⟨found, again, rfl⟩, others, rfl⟩
        rw [done] at again
        cases again
        exact ⟨tail, others, rfl⟩

/-- A pass fails at the first instruction that cannot be resolved. -/
theorem resolve_eq_error {e : Error} (failed : (resolve symbols placed).outcome = .error e) :
    ∃ (k : Nat) (p : PlacedInstruction), placed[k]? = some p ∧
      resolveInstruction symbols p.location p.instruction = .error e ∧
      ∀ j < k, ∀ earlier, placed[j]? = some earlier → ∃ q, Resolves symbols earlier q := by
  induction placed generalizing symbols with
  | nil => simp [resolve] at failed
  | cons first rest ih =>
    have same : (noteUse symbols first).symbols = symbols.symbols := noteUse_symbols
    simp only [resolve, resolveInstruction_congr same] at failed
    split at failed
    · rename_i error
      cases failed
      exact ⟨0, first, rfl, error, by simp⟩
    · rename_i instruction done
      obtain ⟨k, p, found, error, before⟩ := ih (Outcome.map_eq_error_iff.mp failed)
      rw [resolveInstruction_congr same] at error
      rw [resolves_congr same] at before
      refine ⟨k + 1, p, found, error, ?_⟩
      intro j below earlier source
      cases j with
      | zero =>
        simp only [List.getElem?_cons_zero, Option.some.injEq] at source
        exact ⟨_, instruction, source ▸ done, rfl⟩
      | succ j => exact before j (Nat.lt_of_succ_lt_succ below) earlier source

/-- The names in use after a pass were in use before it, or are labels of its instructions. -/
theorem resolve_references {name : Text}
    (member : name ∈ (resolve symbols placed).symbols.references.map Prod.fst) :
    name ∈ symbols.references.map Prod.fst ∨
      ∃ p ∈ placed, p.instruction.label? = some name := by
  induction placed generalizing symbols with
  | nil => exact .inl member
  | cons first rest ih =>
    have noted : name ∈ (noteUse symbols first).references.map Prod.fst →
        name ∈ symbols.references.map Prod.fst ∨ first.instruction.label? = some name := by
      unfold noteUse
      split
      · rename_i label found
        rw [SymbolTable.mem_references_note]
        rintro (rfl | before)
        · exact .inr found
        · exact .inl before
      · exact .inl
    have step : name ∈ (noteUse symbols first).references.map Prod.fst ∨
        ∃ p ∈ rest, p.instruction.label? = some name := by
      simp only [resolve] at member
      split at member
      · exact .inl member
      · exact ih member
    rcases step with before | ⟨p, later, label⟩
    · rcases noted before with before | label
      · exact .inl before
      · exact .inr ⟨first, List.mem_cons_self, label⟩
    · exact .inr ⟨p, List.mem_cons_of_mem _ later, label⟩

end Pass

end Assembler
