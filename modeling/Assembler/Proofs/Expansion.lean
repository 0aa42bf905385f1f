import Assembler.Expansion
import Assembler.Proofs.Fitting

/-!
# Laws of the expansion

`Form.wordCount` predicts the length of `Form.expand`, and an expansion holds machine instructions
only. The instructions of one statement make a block; `Expands` lists the blocks of a segment, and
the location of an instruction tells the block that it belongs to.
-/

namespace Assembler

/-! ## Forms -/

namespace Form

variable {form checked : Form} {forms : List Form} {bits : Int} {location : Option Location}

/-- The class of opcodes that a form is made for. -/
def shape : Form → InstructionClass
  | .alu .. => .alu
  | .flop .. => .flop
  | .immSigned .. => .immSigned
  | .immUnsigned .. => .immUnsigned
  | .dataShuffle .. => .dataShuffle
  | .loadImm .. => .loadImm
  | .setImm .. => .setImm
  | .simple _ => .simple
  | .branch .. => .branch
  | .jumpReg .. => .jumpReg
  | .loadStore .. => .loadStore
  | .jump .. => .jump
  | .push _ | .pop _ | .loadWord .. | .loadAddress .. => .pseudo

theorem isPseudo_iff_shape : form.isPseudo = true ↔ form.shape = .pseudo := by
  cases form <;> simp [isPseudo, shape]

/-- A machine instruction expands to itself, with its operands checked. -/
theorem expand_of_canonical (canonical : form.isPseudo = false) :
    form.expand bits location = (form.checkOperands bits location).map fun checked =>
      [checked] := by
  cases form with
  | push | pop | loadWord | loadAddress => cases canonical
  | _ => rfl

theorem wordCount_of_canonical (canonical : form.isPseudo = false) :
    form.wordCount bits location = .ok 1 := by
  cases form with
  | push | pop | loadWord | loadAddress => cases canonical
  | _ => rfl

/-- Checking operands changes neither the opcode nor the shape of a form. -/
theorem checkOperands_frame (done : form.checkOperands bits location = .ok checked) :
    checked.opcode = form.opcode ∧ checked.shape = form.shape := by
  cases form with
  | immSigned | immUnsigned | loadStore | loadImm | setImm | branch | jump =>
    obtain ⟨_, -, rfl⟩ := Outcome.map_eq_ok_iff.mp done
    exact ⟨rfl, rfl⟩
  | _ =>
    cases done
    exact ⟨rfl, rfl⟩

theorem length_loadWordForms (rd : Register) (value : Int) (width : Nat) :
    (loadWordForms rd value width).length = if fitsImmediate value then 1 else 2 := by
  unfold loadWordForms
  split <;> rfl

/-- The words that are reserved for a form are those that it becomes. -/
theorem wordCount_of_expand (expanded : form.expand bits location = .ok forms) :
    form.wordCount bits location = .ok forms.length := by
  cases pseudo : form.isPseudo with
  | false =>
    rw [expand_of_canonical pseudo] at expanded
    obtain ⟨checked, -, rfl⟩ := Outcome.map_eq_ok_iff.mp expanded
    exact wordCount_of_canonical pseudo
  | true =>
    cases form with
    | push | pop | loadAddress =>
      cases expanded
      rfl
    | loadWord rd imm =>
      obtain ⟨value, fit, rfl⟩ := Outcome.map_eq_ok_iff.mp expanded
      simp [wordCount, fit, Except.map, length_loadWordForms]
    | _ => simp [isPseudo] at pseudo

/-- A form becomes one or two words. -/
theorem wordCount_range {count : Nat} (counted : form.wordCount bits location = .ok count) :
    count = 1 ∨ count = 2 := by
  cases pseudo : form.isPseudo with
  | false =>
    rw [wordCount_of_canonical pseudo] at counted
    cases counted
    exact .inl rfl
  | true =>
    cases form with
    | push | pop | loadAddress =>
      cases counted
      exact .inr rfl
    | loadWord rd imm =>
      obtain ⟨value, -, rfl⟩ := Outcome.map_eq_ok_iff.mp counted
      split
      · exact .inl rfl
      · exact .inr rfl
    | _ => simp [isPseudo] at pseudo

theorem expand_ne_nil (expanded : form.expand bits location = .ok forms) : forms ≠ [] := by
  rintro rfl
  rcases wordCount_range (wordCount_of_expand expanded) with zero | zero <;> simp at zero

/-- What a form expands to are machine instructions. -/
theorem expand_canonical (expanded : form.expand bits location = .ok forms) :
    ∀ f ∈ forms, f.isPseudo = false := by
  cases pseudo : form.isPseudo with
  | false =>
    rw [expand_of_canonical pseudo] at expanded
    obtain ⟨checked, done, rfl⟩ := Outcome.map_eq_ok_iff.mp expanded
    intro f member
    rw [List.mem_singleton.mp member, Bool.eq_false_iff, Ne, isPseudo_iff_shape,
      (checkOperands_frame done).2, ← isPseudo_iff_shape]
    simp [pseudo]
  | true =>
    cases form with
    | push | pop | loadAddress =>
      cases expanded
      simp [isPseudo]
    | loadWord rd imm =>
      obtain ⟨value, -, rfl⟩ := Outcome.map_eq_ok_iff.mp expanded
      unfold loadWordForms
      split <;> simp [isPseudo]
    | _ => simp [isPseudo] at pseudo

end Form

/-! ## Instructions -/

namespace Instruction

variable {i : Instruction} {forms : List Form} {bits : Int} {location : Option Location}

/-- Only a form has an expansion. -/
theorem expand_eq_ok_iff :
    i.expand bits location = .ok forms ↔
      ∃ form, i = .form form ∧ form.expand bits location = .ok forms := by
  cases i <;> simp [expand]

theorem wordCount_of_expand (expanded : i.expand bits location = .ok forms) :
    i.wordCount bits location = .ok forms.length := by
  obtain ⟨form, rfl, expanded⟩ := expand_eq_ok_iff.mp expanded
  exact Form.wordCount_of_expand expanded

theorem expand_ne_nil (expanded : i.expand bits location = .ok forms) : forms ≠ [] := by
  obtain ⟨form, rfl, expanded⟩ := expand_eq_ok_iff.mp expanded
  exact Form.expand_ne_nil expanded

end Instruction

/-! ## Blocks -/

section Blocks

variable {bits : Int} {location : Location} {expandedFrom : Option Opcode} {address : Int}
  {label : Option Text} {forms : List Form} {p : PlacedInstruction}

/-- The block of a statement in closed form: one word apart, the label on the first. -/
theorem placeForms_eq_mapIdx :
    placeForms bits location expandedFrom address label forms =
      forms.mapIdx fun k form =>
        ⟨address + k * WordSize.bytesIn bits, .form form, location, if k = 0 then label else none,
          expandedFrom⟩ := by
  induction forms generalizing address label with
  | nil => rfl
  | cons form rest ih =>
    rw [placeForms, ih, List.mapIdx_cons]
    simp only [Nat.cast_zero, zero_mul, add_zero, if_true, ite_self, Nat.succ_ne_zero, if_false,
      Nat.cast_add, Nat.cast_one, List.cons.injEq, true_and]
    congr
    funext k form
    rw [add_one_mul, add_assoc, add_comm (WordSize.bytesIn bits)]

@[simp] theorem length_placeForms :
    (placeForms bits location expandedFrom address label forms).length = forms.length := by
  simp [placeForms_eq_mapIdx]

/-- An instruction of a block by its position. -/
theorem getElem?_placeForms {k : Nat} :
    (placeForms bits location expandedFrom address label forms)[k]? = some p ↔
      ∃ form, forms[k]? = some form ∧
        p = ⟨address + k * WordSize.bytesIn bits, .form form, location,
          if k = 0 then label else none, expandedFrom⟩ := by
  simp [placeForms_eq_mapIdx, eq_comm]

theorem location_of_mem_placeForms
    (member : p ∈ placeForms bits location expandedFrom address label forms) :
    p.location = some location := by
  obtain ⟨k, found⟩ := List.mem_iff_getElem?.mp member
  obtain ⟨form, -, rfl⟩ := getElem?_placeForms.mp found
  rfl

/-- Of the labels of a block only that of its statement is there. -/
theorem filterMap_label_placeForms (nonempty : forms ≠ []) :
    (placeForms bits location expandedFrom address label forms).filterMap
      PlacedInstruction.label = label.toList := by
  have none_after : ∀ (rest : List Form) (start : Int),
      (placeForms bits location expandedFrom start none rest).filterMap
        PlacedInstruction.label = [] := by
    intro rest
    induction rest with
    | nil => intro start; rfl
    | cons form rest ih => intro start; simpa [placeForms] using ih _
  cases forms with
  | nil => exact absurd rfl nonempty
  | cons form rest =>
    cases label <;> simp [placeForms, none_after]

/-- The statements of a segment with the blocks that they expand to. -/
inductive Expands (bits : Int) : Nat → List (Statement Instruction) → List Int →
    List (List PlacedInstruction) → Prop
  | nil {index : Nat} : Expands bits index [] [] []
  | cons {index : Nat} {address : Int} {addresses : List Int} {statement : Statement Instruction}
      {rest : List (Statement Instruction)} {forms : List Form}
      {blocks : List (List PlacedInstruction)}
      (expanded : statement.body.expand bits (instructionLocation index) = .ok forms)
      (others : Expands bits (index + 1) rest addresses blocks) :
    Expands bits index (statement :: rest) (address :: addresses)
      (placeForms bits (instructionLocation index) statement.body.pseudoOpcode? address
        statement.label forms :: blocks)

variable {index : Nat} {statements : List (Statement Instruction)} {addresses : List Int}
  {placed : List PlacedInstruction} {blocks : List (List PlacedInstruction)}

/-- A segment expands to its blocks in order. -/
theorem expandFrom_eq_ok_iff (length : addresses.length = statements.length) :
    expandFrom bits index statements addresses = .ok placed ↔
      ∃ blocks, Expands bits index statements addresses blocks ∧ placed = blocks.flatten := by
  constructor
  · intro expanded
    induction statements generalizing index addresses placed with
    | nil =>
      rw [List.length_nil, List.length_eq_zero_iff] at length
      subst length
      cases expanded
      exact ⟨[], .nil, rfl⟩
    | cons statement rest ih =>
      cases addresses with
      | nil => simp at length
      | cons address addresses =>
        simp only [expandFrom] at expanded
        split at expanded
        · cases expanded
        · rename_i forms first
          split at expanded
          · cases expanded
          · rename_i later others
            cases expanded
            obtain ⟨blocks, steps, rfl⟩ := ih (by simpa using length) others
            exact ⟨_, .cons first steps, rfl⟩
  · rintro ⟨blocks, steps, rfl⟩
    clear length
    induction steps with
    | nil => rfl
    | cons expanded _ ih => simp [expandFrom, expanded, ih]

/-- An expansion fails at the first statement that has none. -/
theorem expandFrom_eq_error {e : Error} (length : addresses.length = statements.length)
    (failed : expandFrom bits index statements addresses = .error e) :
    ∃ (k : Nat) (statement : Statement Instruction), statements[k]? = some statement ∧
      statement.body.expand bits (instructionLocation (index + k)) = .error e ∧
      ∀ j < k, ∀ earlier : Statement Instruction, statements[j]? = some earlier →
        ∃ forms, earlier.body.expand bits (instructionLocation (index + j)) = .ok forms := by
  induction statements generalizing index addresses with
  | nil => simp [expandFrom] at failed
  | cons statement rest ih =>
    cases addresses with
    | nil => simp at length
    | cons address addresses =>
      simp only [expandFrom] at failed
      split at failed
      · rename_i first
        cases failed
        exact ⟨0, statement, rfl, first, by simp⟩
      · rename_i forms first
        split at failed
        · rename_i others
          cases failed
          obtain ⟨k, later, source, error, before⟩ := ih (by simpa using length) others
          refine ⟨k + 1, later, source, by rwa [Nat.add_assoc, Nat.add_comm 1 k] at error, ?_⟩
          intro j below earlier found
          cases j with
          | zero =>
            simp only [List.getElem?_cons_zero, Option.some.injEq] at found
            exact ⟨forms, found ▸ first⟩
          | succ j =>
            have := before j (Nat.lt_of_succ_lt_succ below) earlier found
            rwa [Nat.add_assoc, Nat.add_comm 1 j] at this
        · cases failed

/-- The block of a statement. -/
theorem Expands.block (steps : Expands bits index statements addresses blocks) {k : Nat}
    {statement : Statement Instruction} (source : statements[k]? = some statement) :
    ∃ address forms, addresses[k]? = some address ∧
      statement.body.expand bits (instructionLocation (index + k)) = .ok forms ∧
      blocks[k]? = some (placeForms bits (instructionLocation (index + k))
        statement.body.pseudoOpcode? address statement.label forms) := by
  induction steps generalizing k with
  | nil => simp at source
  | @cons index address addresses first rest forms blocks expanded others ih =>
    cases k with
    | zero =>
      simp only [List.getElem?_cons_zero, Option.some.injEq] at source
      subst source
      exact ⟨address, forms, rfl, expanded, rfl⟩
    | succ k =>
      obtain ⟨later, laterForms, atAddress, laterExpanded, found⟩ := ih source
      rw [Nat.add_assoc, Nat.add_comm 1 k] at laterExpanded found
      exact ⟨later, laterForms, atAddress, laterExpanded, found⟩

theorem Expands.length_blocks (steps : Expands bits index statements addresses blocks) :
    blocks.length = statements.length := by
  induction steps with
  | nil => rfl
  | cons _ _ ih => simp [ih]

/-- Each instruction comes from a form in the expansion of a statement. -/
theorem Expands.origin (steps : Expands bits index statements addresses blocks)
    (member : p ∈ blocks.flatten) :
    ∃ (k j : Nat) (statement : Statement Instruction) (address : Int) (forms : List Form)
        (form : Form),
      statements[k]? = some statement ∧ addresses[k]? = some address ∧
        statement.body.expand bits (instructionLocation (index + k)) = .ok forms ∧
        forms[j]? = some form ∧
        p = ⟨address + j * WordSize.bytesIn bits, .form form, instructionLocation (index + k),
          if j = 0 then statement.label else none, statement.body.pseudoOpcode?⟩ := by
  obtain ⟨block, source, inside⟩ := List.mem_flatten.mp member
  obtain ⟨k, found⟩ := List.mem_iff_getElem?.mp source
  obtain ⟨j, atPosition⟩ := List.mem_iff_getElem?.mp inside
  have below : k < statements.length := by
    rw [← steps.length_blocks]
    exact (List.getElem?_eq_some_iff.mp found).1
  have statement := List.getElem?_eq_getElem below
  obtain ⟨address, forms, atAddress, expanded, same⟩ := steps.block statement
  rw [found, Option.some.injEq] at same
  subst same
  obtain ⟨form, inForms, rfl⟩ := getElem?_placeForms.mp atPosition
  exact ⟨k, j, _, address, forms, form, statement, atAddress, expanded, inForms, rfl⟩

/-- The labels of the instructions are those of the statements. -/
theorem Expands.filterMap_label (steps : Expands bits index statements addresses blocks) :
    blocks.flatten.filterMap PlacedInstruction.label = statements.filterMap Statement.label := by
  induction steps with
  | nil => rfl
  | @cons index address addresses statement rest forms blocks expanded others ih =>
    rw [List.flatten_cons, List.filterMap_append, ih,
      filterMap_label_placeForms (Instruction.expand_ne_nil expanded)]
    cases label : statement.label <;> simp [label]

/-- The instructions of a list that come from one statement. -/
def blockOf (placed : List PlacedInstruction) (index : Nat) : List PlacedInstruction :=
  placed.filter fun p => p.location = some (instructionLocation index)

theorem instructionLocation_injective {i j : Nat}
    (same : instructionLocation i = instructionLocation j) : i = j := by
  simpa [instructionLocation] using same

/-- The instructions of each block are located at one statement, the statements numbered from an
index on. -/
def Located (index : Nat) (blocks : List (List PlacedInstruction)) : Prop :=
  ∀ k block, blocks[k]? = some block → ∀ p ∈ block,
    p.location = some (instructionLocation (index + k))

theorem Located.tail {first : List PlacedInstruction}
    (located : Located index (first :: blocks)) : Located (index + 1) blocks := by
  intro k block found p member
  rw [Nat.add_assoc, Nat.add_comm 1 k]
  exact located (k + 1) block found p member

theorem Expands.located (steps : Expands bits index statements addresses blocks) :
    Located index blocks := by
  intro k block found p member
  have inside : k < statements.length := by
    rw [← steps.length_blocks]
    exact (List.getElem?_eq_some_iff.mp found).1
  obtain ⟨address, forms, -, -, same⟩ := steps.block (List.getElem?_eq_getElem inside)
  rw [found, Option.some.injEq] at same
  subst same
  exact location_of_mem_placeForms member

/-- What lies before the statements of some blocks is in none of them. -/
theorem Located.blockOf_eq_nil (located : Located index blocks) {i : Nat} (before : i < index) :
    blockOf blocks.flatten i = [] := by
  rw [blockOf, List.filter_eq_nil_iff]
  intro p member
  obtain ⟨block, source, inside⟩ := List.mem_flatten.mp member
  obtain ⟨k, found⟩ := List.mem_iff_getElem?.mp source
  rw [located k block found p inside, decide_eq_true_eq, Option.some.injEq]
  intro same
  have := instructionLocation_injective same
  omega

/-- The location of an instruction tells its block: what is located at a statement is the block
of the statement. -/
theorem Located.blockOf_flatten (located : Located index blocks) {k : Nat}
    {block : List PlacedInstruction} (found : blocks[k]? = some block) :
    blockOf blocks.flatten (index + k) = block := by
  induction blocks generalizing index k with
  | nil => simp at found
  | cons first rest ih =>
    have own := located 0 first rfl
    rw [List.flatten_cons, blockOf, List.filter_append, ← blockOf, ← blockOf]
    cases k with
    | zero =>
      simp only [List.getElem?_cons_zero, Option.some.injEq] at found
      have whole : blockOf first (index + 0) = first :=
        List.filter_eq_self.mpr fun p member => decide_eq_true (own p member)
      have later : blockOf rest.flatten (index + 0) = [] :=
        located.tail.blockOf_eq_nil (Nat.lt_succ_self index)
      rw [whole, later, List.append_nil, found]
    | succ k =>
      have apart : blockOf first (index + (k + 1)) = [] := by
        rw [blockOf, List.filter_eq_nil_iff]
        intro p member
        rw [own p member, decide_eq_true_eq, Option.some.injEq]
        intro same
        have := instructionLocation_injective same
        omega
      rw [apart, List.nil_append, Nat.add_comm k 1, ← Nat.add_assoc]
      exact ih located.tail found

/-- The blocks are what the locations tell, in the order of the statements. -/
theorem Located.map_blockOf (located : Located 0 blocks) :
    (List.range blocks.length).map (blockOf blocks.flatten) = blocks := by
  apply List.ext_getElem?
  intro k
  rw [List.getElem?_map]
  cases found : blocks[k]? with
  | none => simpa using found
  | some block =>
    have inside := (List.getElem?_eq_some_iff.mp found).1
    have same := located.blockOf_flatten found
    rw [Nat.zero_add] at same
    rw [List.getElem?_range inside, Option.map_some, same]

end Blocks

end Assembler
