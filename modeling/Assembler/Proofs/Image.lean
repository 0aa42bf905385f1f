import Assembler.Image
import Assembler.Proofs.Correspondence
import Assembler.Proofs.Resolution

/-!
# Laws of the image check

Each loop of `Image.make` amounts to one statement about all labels, all names in use or all
instructions. Together they say exactly when there is an image, and what it is made of. A check
reads the table and leaves it, so the table changes once, after the last check.
-/

namespace Assembler

theorem Instruction.pseudoOpcode?_eq_none_iff {i : Instruction} :
    i.pseudoOpcode? = none ↔ i.isPseudo = false := by
  cases i with
  | form f =>
    cases pseudo : f.isPseudo <;> simp [pseudoOpcode?, Form.pseudoOpcode?, isPseudo, pseudo]
  | foreign thing => simp [pseudoOpcode?, isPseudo]

namespace Image

variable {symbols : SymbolTable} {layout : Layout} {instructions : List PlacedInstruction}
  {warnings : List Text} {image : Image}

/-- The label check passes for labels that are distinct, new and defined at their addresses. -/
theorem checkLabels_eq_ok_iff {seen labels : List Labelled} :
    checkLabels symbols seen labels = .ok () ↔
      (labels.map Labelled.name).Nodup ∧
        (∀ l ∈ labels, ∀ earlier ∈ seen, earlier.name ≠ l.name) ∧
        ∀ l ∈ labels, ∃ s, symbols.find? l.name = some s ∧ s.address = l.address := by
  induction labels generalizing seen with
  | nil => simp [checkLabels]
  | cons l rest ih =>
    simp only [checkLabels]
    cases known : seen.find? fun earlier => earlier.name = l.name with
    | some earlier =>
      have member := List.mem_of_find?_eq_some known
      have same : earlier.name = l.name := by simpa using List.find?_some known
      simp only [reduceCtorEq, false_iff]
      rintro ⟨-, fresh, -⟩
      exact fresh l List.mem_cons_self earlier member same
    | none =>
      have fresh : ∀ earlier ∈ seen, earlier.name ≠ l.name := by simpa using known
      cases found : symbols.lookup l.name l.location with
      | error e =>
        have absent := (SymbolTable.lookup_eq_error_iff.mp found).1
        simp [SymbolTable.find?_eq_none_iff.mpr absent]
      | ok s =>
        have present := SymbolTable.lookup_eq_ok_iff.mp found
        by_cases placed : s.address = l.address
        · simp only [placed, if_true, ih, List.map_cons, List.nodup_cons, List.forall_mem_cons,
            present, Option.some.injEq, exists_eq_left', true_and]
          constructor
          · rintro ⟨distinct, new, defined⟩
            refine ⟨⟨?_, distinct⟩, ⟨fresh, fun x member => (new x member).2⟩, defined⟩
            intro repeated
            obtain ⟨x, member, same⟩ := List.mem_map.mp repeated
            exact (new x member).1 same.symm
          · rintro ⟨⟨once, distinct⟩, ⟨-, new⟩, defined⟩
            refine ⟨distinct, fun x member => ⟨fun same => once ?_, new x member⟩, defined⟩
            exact same ▸ List.mem_map_of_mem member
        · simp [placed, present]

/-- The check of the names in use passes if all of them are defined. -/
theorem checkReferences_eq_ok_iff {references : List (Text × List (Option Location))} :
    checkReferences symbols references = .ok () ↔
      ∀ name ∈ references.map Prod.fst, name ∈ symbols.names := by
  induction references with
  | nil => simp [checkReferences]
  | cons first rest ih =>
    obtain ⟨name, uses⟩ := first
    simp only [checkReferences, List.map_cons, List.forall_mem_cons]
    split
    · rename_i defined
      rw [ih]
      simp [SymbolTable.contains_iff.mp defined]
    · rename_i missing
      rw [SymbolTable.contains_iff] at missing
      simp [missing]

/-- The last check passes if no pseudo-instruction is left. -/
theorem checkCanonical_eq_ok_iff :
    checkCanonical instructions = .ok () ↔
      ∀ p ∈ instructions, p.instruction.isPseudo = false := by
  induction instructions with
  | nil => simp [checkCanonical]
  | cons first rest ih =>
    simp only [checkCanonical, List.forall_mem_cons, ← Instruction.pseudoOpcode?_eq_none_iff]
    cases pseudo : first.instruction.pseudoOpcode? with
    | some op => simp
    | none => simp [ih, Instruction.pseudoOpcode?_eq_none_iff]

/-- The image that a layout and its instructions make. -/
def ofLayout (layout : Layout) (instructions : List PlacedInstruction) (warnings : List Text) :
    Image :=
  { data := layout.data
    instructions := instructions
    symbols := layout.symbols.freeze
    dataBase := layout.dataBase
    dataSize := layout.dataSize
    instructionBase := layout.instructionBase
    instructionSize := layout.instructionSize
    wordBits := layout.wordBits
    warnings := layout.warnings ++ warnings }

/-! ## The steps together -/

/-- A check leaves the table as it was. -/
theorem run_check (test : SymbolTable → Except Error Unit) :
    (check test).run.run symbols = (test symbols, symbols) := rfl

/-- After a check that fails nothing else is done. After one that passes, the next step finds the
same table. -/
theorem run_check_bind {α : Type} (test : SymbolTable → Except Error Unit)
    (next : SymbolTable.Access α) :
    (do check test; next : SymbolTable.Access α).run.run symbols =
      match test symbols with
      | .error e => (.error e, symbols)
      | .ok _ => next.run.run symbols := by
  rw [ExceptT.run_bind, StateT.run_bind, run_check]
  cases test symbols <;> rfl

/-- The three checks of an image. -/
def inspect (layout : Layout) (instructions : List PlacedInstruction) : Except Error Unit := do
  checkLabels layout.symbols [] (placedLabels layout.data instructions)
  checkReferences layout.symbols layout.symbols.references
  checkCanonical instructions

/-- The table is frozen if the checks pass, and left alone if one of them fails. -/
theorem finish_eq :
    finish layout instructions warnings =
      match inspect layout instructions with
      | .error e => (.error e, layout.symbols)
      | .ok _ => (.ok (ofLayout layout instructions warnings), layout.symbols.freeze) := by
  unfold finish make inspect
  rw [run_check_bind]
  cases checkLabels layout.symbols [] (placedLabels layout.data instructions) with
  | error e => rfl
  | ok _ =>
    show StateT.run (ExceptT.run _) layout.symbols = _
    rw [run_check_bind]
    cases checkReferences layout.symbols layout.symbols.references with
    | error e => rfl
    | ok _ =>
      show StateT.run (ExceptT.run _) layout.symbols = _
      rw [run_check_bind]
      cases checkCanonical instructions with
      | error e => rfl
      | ok _ => rfl

theorem inspect_eq_ok_iff :
    inspect layout instructions = .ok () ↔
      (((placedLabels layout.data instructions).map Labelled.name).Nodup ∧
        ∀ l ∈ placedLabels layout.data instructions,
          ∃ s, layout.symbols.find? l.name = some s ∧ s.address = l.address) ∧
      (∀ name ∈ layout.symbols.references.map Prod.fst, name ∈ layout.symbols.names) ∧
      ∀ p ∈ instructions, p.instruction.isPseudo = false := by
  rw [← checkReferences_eq_ok_iff, ← checkCanonical_eq_ok_iff]
  have labels : (((placedLabels layout.data instructions).map Labelled.name).Nodup ∧
      ∀ l ∈ placedLabels layout.data instructions,
        ∃ s, layout.symbols.find? l.name = some s ∧ s.address = l.address) ↔
      checkLabels layout.symbols [] (placedLabels layout.data instructions) = .ok () := by
    simp [checkLabels_eq_ok_iff]
  rw [labels]
  unfold inspect
  cases checkLabels layout.symbols [] (placedLabels layout.data instructions) with
  | error e => simp [bind, Except.bind]
  | ok _ =>
    cases checkReferences layout.symbols layout.symbols.references with
    | error e => simp [bind, Except.bind]
    | ok _ => simp [bind, Except.bind]

/-- There is an image exactly if the labels, the names in use and the instructions are in order. -/
theorem build_eq_ok_iff :
    build layout instructions warnings = .ok image ↔
      (((placedLabels layout.data instructions).map Labelled.name).Nodup ∧
        ∀ l ∈ placedLabels layout.data instructions,
          ∃ s, layout.symbols.find? l.name = some s ∧ s.address = l.address) ∧
      (∀ name ∈ layout.symbols.references.map Prod.fst, name ∈ layout.symbols.names) ∧
      (∀ p ∈ instructions, p.instruction.isPseudo = false) ∧
      image = ofLayout layout instructions warnings := by
  rw [build, finish_eq, ← and_assoc, ← and_assoc, and_assoc (c := ∀ p ∈ instructions, _),
    ← inspect_eq_ok_iff]
  cases inspect layout instructions with
  | error e => simp
  | ok _ => simp only [Except.ok.injEq, true_and, eq_comm]

/-! ## Texts and entries of items -/

section Collect

variable {α β : Type} {make : α → Except Error β} {items : List α} {results : List β}

/-- All items have results. -/
theorem collect_eq_ok_iff :
    collect make items = .ok results ↔
      List.Forall₂ (fun item result => make item = .ok result) items results := by
  induction items generalizing results with
  | nil => simp [collect, eq_comm]
  | cons item rest ih =>
    rw [collect, List.forall₂_cons_left_iff]
    cases own : make item with
    | error e => simp
    | ok first =>
      cases later : collect make rest with
      | error e => simp [← ih, later]
      | ok others => simp [← ih, later, eq_comm]

theorem exists_collect_iff :
    (∃ results, collect make items = .ok results) ↔
      ∀ item ∈ items, ∃ result, make item = .ok result := by
  simp only [collect_eq_ok_iff, Correspondence.exists_right_iff]

theorem forall_of_collect {P : β → Prop} (made : collect make items = .ok results)
    (each : ∀ item ∈ items, ∀ result, make item = .ok result → P result) :
    ∀ result ∈ results, P result := by
  intro result member
  obtain ⟨item, inside, own⟩ := Correspondence.mem_right (collect_eq_ok_iff.mp made) member
  exact each item inside result own

end Collect

end Image

end Assembler
