import Assembler.Proofs.Resolution

/-!
# Uses of names

A table shows the uses of names in two views: the names in use, in the order of first use, and the
places where each of them is used. Noting a use adds a place to its name, and adds the name at the
end if it is new.

A pass over the instructions notes the use of a label before it looks the label up. So whether it
ends well or not, it leaves the uses of exactly those instructions that it has come to, the failing
one included, and changes nothing else in the table.
-/

namespace Assembler

namespace SymbolTable

/-- The names in use, in the order of their first use. -/
def usedNames (t : SymbolTable) : List Text := t.references.map Prod.fst

/-- The places where a name is used, in the order of its uses. -/
def placesOf (t : SymbolTable) (name : Text) : List (Option Location) :=
  (t.references.lookup name).getD []

/-- Note some uses, one after the other. -/
def noteAll (t : SymbolTable) (uses : List (Text × Option Location)) : SymbolTable :=
  uses.foldl (fun t use => t.note use.1 use.2) t

variable {t : SymbolTable} {name other : Text} {location : Option Location}
  {uses : List (Text × Option Location)}

/-! ## One use -/

theorem map_fst_addUse {references : List (Text × List (Option Location))} :
    (addUse name location references).map Prod.fst =
      if name ∈ references.map Prod.fst then references.map Prod.fst
      else references.map Prod.fst ++ [name] := by
  induction references with
  | nil => rfl
  | cons first rest ih =>
    obtain ⟨key, places⟩ := first
    unfold addUse
    by_cases same : key = name
    · simp [same]
    · have apart : name ≠ key := fun equal => same equal.symm
      by_cases known : name ∈ rest.map Prod.fst
      · rw [if_pos known] at ih
        simp [same, apart, ih, known]
      · rw [if_neg known] at ih
        simp [same, apart, ih, known]

theorem lookup_addUse {references : List (Text × List (Option Location))} :
    ((addUse name location references).lookup other).getD [] =
      (references.lookup other).getD [] ++ if other = name then [location] else [] := by
  induction references with
  | nil =>
    by_cases asked : other = name
    · simp [addUse, asked]
    · have differ : (other == name) = false := by simpa using asked
      simp [addUse, List.lookup_cons, asked, differ]
  | cons first rest ih =>
    obtain ⟨key, places⟩ := first
    unfold addUse
    by_cases same : key = name
    · by_cases asked : other = name
      · simp [same, asked]
      · have differ : (other == name) = false := by simpa using asked
        simp [same, asked, List.lookup_cons, differ]
    · by_cases here : other = key
      · simp [same, here]
      · have differ : (other == key) = false := by simpa using here
        simpa [same, List.lookup_cons, differ] using ih

theorem usedNames_note :
    (t.note name location).usedNames =
      if name ∈ t.usedNames then t.usedNames else t.usedNames ++ [name] :=
  map_fst_addUse

theorem placesOf_note :
    (t.note name location).placesOf other =
      t.placesOf other ++ if other = name then [location] else [] :=
  lookup_addUse

theorem nodup_usedNames_note (distinct : t.usedNames.Nodup) :
    (t.note name location).usedNames.Nodup := by
  rw [usedNames_note]
  by_cases known : name ∈ t.usedNames
  · rwa [if_pos known]
  · rw [if_neg known, List.nodup_append]
    refine ⟨distinct, List.nodup_singleton name, ?_⟩
    intro old member new added equal
    rw [List.mem_singleton.mp added] at equal
    exact known (equal ▸ member)

/-! ## Many uses -/

@[simp] theorem noteAll_nil : t.noteAll [] = t := rfl

@[simp] theorem noteAll_cons (use : Text × Option Location) :
    t.noteAll (use :: uses) = (t.note use.1 use.2).noteAll uses :=
  rfl

theorem noteAll_frame (t : SymbolTable) (uses : List (Text × Option Location)) :
    (t.noteAll uses).symbols = t.symbols ∧ (t.noteAll uses).frozen = t.frozen := by
  induction uses generalizing t with
  | nil => exact ⟨rfl, rfl⟩
  | cons use rest ih => exact ih (t.note use.1 use.2)

theorem nodup_usedNames_noteAll (distinct : t.usedNames.Nodup) :
    (t.noteAll uses).usedNames.Nodup := by
  induction uses generalizing t with
  | nil => exact distinct
  | cons use rest ih => exact ih (nodup_usedNames_note distinct)

/-- New names come after the old ones, in the order of their first use. -/
theorem usedNames_noteAll (t : SymbolTable) (uses : List (Text × Option Location)) :
    (t.noteAll uses).usedNames =
      t.usedNames ++ ((uses.map Prod.fst).filter fun name => name ∉ t.usedNames).eraseDups := by
  induction uses generalizing t with
  | nil => simp
  | cons use rest ih =>
    obtain ⟨name, location⟩ := use
    have later := ih (t.note name location)
    rw [usedNames_note] at later
    by_cases known : name ∈ t.usedNames
    · rw [if_pos known] at later
      simpa [known] using later
    · rw [if_neg known] at later
      have skipped : ∀ other, (decide (other ∉ t.usedNames ++ [name])) =
          (!other == name && decide (other ∉ t.usedNames)) := by
        intro other
        by_cases same : other = name <;> simp [same]
      rw [funext skipped, ← List.filter_filter] at later
      rw [List.map_cons, List.filter_cons_of_pos (by simpa using known), List.eraseDups_cons]
      simpa using later

/-- The places of a name grow by those of its new uses. -/
theorem placesOf_noteAll (t : SymbolTable) (uses : List (Text × Option Location))
    (name : Text) :
    (t.noteAll uses).placesOf name =
      t.placesOf name ++ (uses.filter fun use => use.1 = name).map Prod.snd := by
  induction uses generalizing t with
  | nil => simp
  | cons use rest ih =>
    have later := ih (t.note use.1 use.2)
    rw [placesOf_note] at later
    by_cases own : use.1 = name
    · simpa [own] using later
    · have apart : name ≠ use.1 := fun equal => own equal.symm
      simpa [own, apart] using later

end SymbolTable

/-! ## The uses of instructions -/

/-- The label that an instruction uses, as the target of a jump or for half of its address, and the
place of the use. -/
def PlacedInstruction.use? (p : PlacedInstruction) : Option (Text × Option Location) :=
  match p.instruction with
  | .form (.branch _ _ (.label name)) | .form (.jump _ (.label name))
  | .form (.loadImm _ _ (.label name)) | .form (.setImm _ _ (.label name)) =>
    some (name, p.location)
  | _ => none

/-- The uses of some instructions, in order. -/
def usesIn (placed : List PlacedInstruction) : List (Text × Option Location) :=
  placed.filterMap PlacedInstruction.use?

/-- A table with the uses of the instructions that were processed, and nothing else changed. -/
structure SymbolTable.Records (t after : SymbolTable) (processed : List PlacedInstruction) :
    Prop where
  names : after.usedNames = t.usedNames ++
    (((usesIn processed).map Prod.fst).filter fun name => name ∉ t.usedNames).eraseDups
  places : ∀ name, after.placesOf name = t.placesOf name ++
    ((usesIn processed).filter fun use => use.1 = name).map Prod.snd
  distinct : t.usedNames.Nodup → after.usedNames.Nodup
  symbols : after.symbols = t.symbols
  frozen : after.frozen = t.frozen

theorem SymbolTable.records_noteAll (t : SymbolTable) (processed : List PlacedInstruction) :
    t.Records (t.noteAll (usesIn processed)) processed := by
  obtain ⟨symbols, frozen⟩ := t.noteAll_frame (usesIn processed)
  refine ⟨t.usedNames_noteAll _, t.placesOf_noteAll _, ?_, symbols, frozen⟩
  intro distinct
  exact nodup_usedNames_noteAll distinct

namespace Resolution

variable {symbols : SymbolTable} {first : PlacedInstruction} {placed : List PlacedInstruction}

theorem use?_eq_map_label? (p : PlacedInstruction) :
    p.use? = p.instruction.label?.map fun name => (name, p.location) := by
  obtain ⟨address, instruction, location, label, expandedFrom⟩ := p
  cases instruction with
  | foreign thing => rfl
  | form f =>
    cases f with
    | branch op r o | jump op o | loadImm op r o | setImm op r o => cases o <;> rfl
    | _ => rfl

/-- One instruction notes its use. -/
theorem noteAll_cons_use (rest : List PlacedInstruction) :
    symbols.noteAll (usesIn (first :: rest)) = (noteUse symbols first).noteAll (usesIn rest) := by
  unfold noteUse usesIn
  rw [List.filterMap_cons, use?_eq_map_label?]
  cases first.instruction.label? <;> rfl

/-- A pass that succeeds notes the uses of all instructions. -/
theorem symbols_of_resolve {resolved : List PlacedInstruction}
    (done : (resolve symbols placed).outcome = .ok resolved) :
    (resolve symbols placed).symbols = symbols.noteAll (usesIn placed) := by
  induction placed generalizing symbols resolved with
  | nil => rfl
  | cons first rest ih =>
    cases own : resolveInstruction symbols first.location first.instruction with
    | error e =>
      rw [resolve_cons_of_error own] at done
      cases done
    | ok instruction =>
      rw [resolve_cons_of_ok own] at done ⊢
      obtain ⟨tail, others, -⟩ := Outcome.map_eq_ok_iff.mp done
      rw [noteAll_cons_use]
      exact ih others

/-- A pass that fails notes the uses of the instructions up to the failing one. -/
theorem symbols_of_resolve_error {e : Error}
    (failed : (resolve symbols placed).outcome = .error e) :
    ∃ before failing after, placed = before ++ failing :: after ∧
      (∃ resolved, (resolve symbols before).outcome = .ok resolved) ∧
      (resolve symbols (before ++ [failing])).outcome = .error e ∧
      (resolve symbols placed).symbols = symbols.noteAll (usesIn (before ++ [failing])) := by
  induction placed generalizing symbols with
  | nil => cases failed
  | cons first rest ih =>
    cases own : resolveInstruction symbols first.location first.instruction with
    | error cause =>
      rw [resolve_cons_of_error own] at failed ⊢
      cases failed
      refine ⟨[], first, rest, rfl, ⟨[], rfl⟩, ?_, ?_⟩
      · rw [List.nil_append, resolve_cons_of_error own]
      · rw [List.nil_append, noteAll_cons_use]
        rfl
    | ok instruction =>
      rw [resolve_cons_of_ok own] at failed ⊢
      obtain ⟨before, failing, after, rfl, ⟨resolved, done⟩, stops, noted⟩ :=
        ih (Outcome.map_eq_error_iff.mp failed)
      refine ⟨first :: before, failing, after, rfl, ⟨{ first with instruction } :: resolved, ?_⟩,
        ?_, ?_⟩
      · rw [resolve_cons_of_ok own, done]
        rfl
      · rw [List.cons_append, resolve_cons_of_ok own]
        exact Outcome.map_eq_error_iff.mpr stops
      · rw [List.cons_append, noteAll_cons_use]
        exact noted

/-- A pass records the uses of the instructions that it has come to: of all of them if it succeeds,
and otherwise of those up to the first one with which it fails. -/
theorem resolve_records (symbols : SymbolTable) (placed : List PlacedInstruction) :
    (∀ resolved, (resolve symbols placed).outcome = .ok resolved →
        symbols.Records (resolve symbols placed).symbols placed) ∧
      ∀ e, (resolve symbols placed).outcome = .error e →
        ∃ before failing after, placed = before ++ failing :: after ∧
          (∃ resolved, (resolve symbols before).outcome = .ok resolved) ∧
          (resolve symbols (before ++ [failing])).outcome = .error e ∧
          symbols.Records (resolve symbols placed).symbols (before ++ [failing]) := by
  constructor
  · intro resolved done
    rw [symbols_of_resolve done]
    exact symbols.records_noteAll placed
  · intro e failed
    obtain ⟨before, failing, after, split, passed, stops, noted⟩ := symbols_of_resolve_error failed
    refine ⟨before, failing, after, split, passed, stops, ?_⟩
    rw [noted]
    exact symbols.records_noteAll (before ++ [failing])

/-- A table in which a name is in use already. -/
def startTable : SymbolTable where
  symbols := [⟨"loop", 8, .instructions, ⟨.instructions, 0⟩⟩]
  references := [("start", [none])]

/-- Instructions of which the second one uses a label that is not defined. -/
def interrupted : List PlacedInstruction :=
  [⟨0, .form (.jump .jmp (.label "loop")), some ⟨.instructions, 0⟩, none, none⟩,
    ⟨4, .form (.loadImm .li .v0 (.label "end")), some ⟨.instructions, 1⟩, none, none⟩,
    ⟨8, .form (.jump .jmp (.label "loop")), some ⟨.instructions, 2⟩, none, none⟩]

/-- The use that fails is noted, and the one after it is not. -/
theorem resolve_records_interrupted :
    (resolve startTable interrupted).symbols.references =
        ([("start", [none]), ("loop", [some ⟨.instructions, 0⟩]),
          ("end", [some ⟨.instructions, 1⟩])] : List (Text × List (Option Location))) ∧
      ∃ e before failing after, (resolve startTable interrupted).outcome = .error e ∧
        interrupted = before ++ failing :: after ∧
        startTable.Records (resolve startTable interrupted).symbols (before ++ [failing]) := by
  have failed : ∃ e, (resolve startTable interrupted).outcome = .error e := ⟨_, rfl⟩
  obtain ⟨e, failed⟩ := failed
  obtain ⟨before, failing, after, split, -, -, records⟩ :=
    (resolve_records startTable interrupted).2 e failed
  exact ⟨rfl, e, before, failing, after, failed, split, records⟩

end Resolution

end Assembler
