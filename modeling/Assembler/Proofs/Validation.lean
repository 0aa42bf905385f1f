import Assembler.Proofs.Consistency

/-!
# The image check is exact and atomic

`Image.Valid` says what has to hold of a layout and its instructions, whatever they come from.
`Image.finish` makes an image exactly then. It freezes the table if it makes one. If it does not,
its error reports an `Image.Defect`, and the table is as it was.
-/

namespace Assembler

namespace Image

variable {symbols : SymbolTable} {layout : Layout} {instructions : List PlacedInstruction}
  {e : Error}

/-- Each label stands at one statement and is defined at its address, each name in use is defined,
and each instruction is one of the machine. -/
structure Valid (layout : Layout) (instructions : List PlacedInstruction) : Prop where
  distinct : ((layout.data.filterMap PlacedData.label ++
    instructions.filterMap PlacedInstruction.label).filter (· ≠ [])).Nodup
  data : ∀ d ∈ layout.data, ∀ name, d.label = some name → name ≠ [] →
    ∃ s, layout.symbols.find? name = some s ∧ s.address = d.address
  code : ∀ p ∈ instructions, ∀ name, p.label = some name → name ≠ [] →
    ∃ s, layout.symbols.find? name = some s ∧ s.address = p.address
  defined : ∀ name ∈ layout.symbols.references.map Prod.fst, name ∈ layout.symbols.names
  canonical : ∀ p ∈ instructions, p.instruction.isPseudo = false

/-- The three loops pass together on what is valid, and on nothing else. -/
theorem inspect_eq_ok_iff_valid :
    inspect layout instructions = .ok () ↔ Valid layout instructions := by
  rw [inspect_eq_ok_iff, map_name_placedLabels, placedLabels_defined_iff]
  constructor
  · intro passed
    obtain ⟨⟨distinct, data, code⟩, defined, canonical⟩ := passed
    exact ⟨distinct, data, code, defined, canonical⟩
  · intro valid
    exact ⟨⟨valid.distinct, valid.data, valid.code⟩, valid.defined, valid.canonical⟩

/-! ## Errors of the check -/

/-- What is wrong with the labels of the statements, by the error that reports it. -/
inductive LabelDefect (symbols : SymbolTable) (labels : List Labelled) : Error → Prop
  /-- A label stands at two statements: the error is at the second and names the first. -/
  | repeated {first second : Labelled} (order : [first, second].Sublist labels)
      (same : first.name = second.name) :
      LabelDefect symbols labels
        (.located second.location (.duplicate second.name first.location))
  | missing {l : Labelled} (member : l ∈ labels) (absent : l.name ∉ symbols.names) :
      LabelDefect symbols labels (.located l.location (symbols.undefined l.name))
  | misplaced {l : Labelled} {s : Symbol} (member : l ∈ labels)
      (found : symbols.find? l.name = some s) (elsewhere : s.address ≠ l.address) :
      LabelDefect symbols labels (.located l.location (.misplaced l.name s.address l.address))

/-- What is wrong with a layout and its instructions, by the error that reports it. -/
inductive Defect (layout : Layout) (instructions : List PlacedInstruction) : Error → Prop
  | label {e : Error}
      (defect : LabelDefect layout.symbols (placedLabels layout.data instructions) e) :
      Defect layout instructions e
  /-- A name in use is not defined: the error is at its first use. -/
  | unknown {name : Text} {uses : List (Option Location)}
      (member : (name, uses) ∈ layout.symbols.references)
      (absent : name ∉ layout.symbols.names) :
      Defect layout instructions (.located uses.head?.join (layout.symbols.undefined name))
  | pseudo {p : PlacedInstruction} {op : Opcode} (member : p ∈ instructions)
      (left : p.instruction.pseudoOpcode? = some op) :
      Defect layout instructions (.located p.location (.pseudoLeft op))

/-- The labels before the ones at hand are those that have been seen, the last of them first. -/
theorem labelDefect_of_checkLabels {seen labels : List Labelled}
    (failed : checkLabels symbols seen labels = .error e) :
    LabelDefect symbols (seen.reverse ++ labels) e := by
  induction labels generalizing seen with
  | nil => simp [checkLabels] at failed
  | cons l rest ih =>
    have here : l ∈ seen.reverse ++ l :: rest := by simp
    simp only [checkLabels] at failed
    cases known : seen.find? fun earlier => earlier.name = l.name with
    | some earlier =>
      have before : earlier ∈ seen.reverse := by simpa using List.mem_of_find?_eq_some known
      have same : earlier.name = l.name := by simpa using List.find?_some known
      simp only [known, Except.error.injEq] at failed
      rw [← failed]
      refine .repeated ?_ same
      exact (List.singleton_sublist.mpr before).append
        (List.singleton_sublist.mpr List.mem_cons_self)
    | none =>
      simp only [known] at failed
      cases found : symbols.lookup l.name l.location with
      | error cause =>
        obtain ⟨absent, rfl⟩ := SymbolTable.lookup_eq_error_iff.mp found
        simp only [found, Except.error.injEq] at failed
        rw [← failed]
        exact .missing here absent
      | ok s =>
        simp only [found] at failed
        by_cases placed : s.address = l.address
        · rw [if_pos placed] at failed
          simpa using ih failed
        · simp only [if_neg placed, Except.error.injEq] at failed
          rw [← failed]
          exact .misplaced here (SymbolTable.lookup_eq_ok_iff.mp found) placed

theorem unknown_of_checkReferences {references : List (Text × List (Option Location))}
    (failed : checkReferences symbols references = .error e) :
    ∃ name uses, (name, uses) ∈ references ∧ name ∉ symbols.names ∧
      e = .located uses.head?.join (symbols.undefined name) := by
  induction references with
  | nil => simp [checkReferences] at failed
  | cons first rest ih =>
    obtain ⟨name, uses⟩ := first
    simp only [checkReferences] at failed
    by_cases defined : symbols.contains name
    · rw [if_pos defined] at failed
      obtain ⟨other, places, member, missing⟩ := ih failed
      exact ⟨other, places, List.mem_cons_of_mem _ member, missing⟩
    · simp only [if_neg defined, Except.error.injEq] at failed
      rw [SymbolTable.contains_iff] at defined
      exact ⟨name, uses, List.mem_cons_self, defined, failed.symm⟩

theorem pseudo_of_checkCanonical (failed : checkCanonical instructions = .error e) :
    ∃ p op, p ∈ instructions ∧ p.instruction.pseudoOpcode? = some op ∧
      e = .located p.location (.pseudoLeft op) := by
  induction instructions with
  | nil => simp [checkCanonical] at failed
  | cons first rest ih =>
    simp only [checkCanonical] at failed
    cases pseudo : first.instruction.pseudoOpcode? with
    | some op =>
      simp only [pseudo, Except.error.injEq] at failed
      exact ⟨first, op, List.mem_cons_self, pseudo, failed.symm⟩
    | none =>
      simp only [pseudo] at failed
      obtain ⟨p, op, member, left⟩ := ih failed
      exact ⟨p, op, List.mem_cons_of_mem _ member, left⟩

/-- An error of the check reports a defect. -/
theorem defect_of_inspect (failed : inspect layout instructions = .error e) :
    Defect layout instructions e := by
  unfold inspect at failed
  cases labels : checkLabels layout.symbols [] (placedLabels layout.data instructions) with
  | error cause =>
    simp only [labels, bind, Except.bind, Except.error.injEq] at failed
    rw [← failed]
    exact .label (by simpa using labelDefect_of_checkLabels labels)
  | ok _ =>
    cases references : checkReferences layout.symbols layout.symbols.references with
    | error cause =>
      simp only [labels, references, bind, Except.bind, Except.error.injEq] at failed
      obtain ⟨name, uses, member, absent, rfl⟩ := unknown_of_checkReferences references
      rw [← failed]
      exact .unknown member absent
    | ok _ =>
      simp only [labels, references, bind, Except.bind] at failed
      obtain ⟨p, op, member, left, rfl⟩ := pseudo_of_checkCanonical failed
      exact .pseudo member left

/-! ## The image or the error, and the table -/

/-- On what is valid, the table is frozen and the image holds what was given, with the warnings of
the layout first. On anything else the error reports a defect and the table is as it was. -/
theorem finish_atomic (layout : Layout) (instructions : List PlacedInstruction)
    (warnings : List Text) :
    (Valid layout instructions →
      finish layout instructions warnings =
        (.ok
          { data := layout.data
            instructions := instructions
            symbols := { layout.symbols with frozen := true }
            dataBase := layout.dataBase
            dataSize := layout.dataSize
            instructionBase := layout.instructionBase
            instructionSize := layout.instructionSize
            wordBits := layout.wordBits
            warnings := layout.warnings ++ warnings },
          { layout.symbols with frozen := true })) ∧
    (¬ Valid layout instructions →
      ∃ e, Defect layout instructions e ∧
        finish layout instructions warnings = (.error e, layout.symbols)) := by
  rw [finish_eq, ← inspect_eq_ok_iff_valid]
  cases outcome : inspect layout instructions with
  | ok _ => exact ⟨fun _ => rfl, fun invalid => absurd rfl invalid⟩
  | error e =>
    constructor
    · intro valid
      cases valid
    · intro _
      exact ⟨e, defect_of_inspect outcome, rfl⟩

/-- A byte, and a table in which it and the address `4` have names. -/
def labelledByte : Layout :=
  { symbols :=
      { symbols := [⟨"x", 16, .data, ⟨.data, 0⟩⟩, ⟨"start", 4, .instructions, ⟨.instructions, 0⟩⟩]
        references := [("start", [some ⟨.instructions, 0⟩])] }
    data := [⟨16, .list .byte [.number 7], some ⟨.data, 0⟩, some "x", 1, [7]⟩]
    instructionAddresses := [4]
    dataBase := 16
    dataSize := 1
    instructionBase := 4
    instructionSize := 4
    wordBits := 32
    warnings := ["layout"] }

/-- An instruction under the label that `labelledByte` has for it. -/
def labelledForm (form : Form) : List PlacedInstruction :=
  [⟨4, .form form, some ⟨.instructions, 0⟩, some "start", none⟩]

/-- With a jump the table is frozen. With a pseudo-instruction, which is the last thing that the
check finds, it is not. -/
theorem finish_atomic_labelledByte :
    (Valid labelledByte (labelledForm (.jump .jmp (.address 4))) ∧
      ∃ image, image.warnings = (["layout", "resolution"] : List Text) ∧
        finish labelledByte (labelledForm (.jump .jmp (.address 4))) ["resolution"] =
          (.ok image, { labelledByte.symbols with frozen := true })) ∧
    (¬ Valid labelledByte (labelledForm (.push .t0)) ∧
      ∃ e, Defect labelledByte (labelledForm (.push .t0)) e ∧
        finish labelledByte (labelledForm (.push .t0)) ["resolution"] =
          (.error e, labelledByte.symbols)) := by
  have valid : Valid labelledByte (labelledForm (.jump .jmp (.address 4))) :=
    inspect_eq_ok_iff_valid.mp rfl
  have invalid : ¬ Valid labelledByte (labelledForm (.push .t0)) := by
    intro valid
    exact absurd (valid.canonical _ List.mem_cons_self) (by decide)
  refine ⟨⟨valid, _, ?_, (finish_atomic _ _ _).1 valid⟩, invalid, (finish_atomic _ _ _).2 invalid⟩
  rfl

end Image

end Assembler
