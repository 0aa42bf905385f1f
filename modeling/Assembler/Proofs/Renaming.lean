import Assembler.Proofs.Agreement
import Assembler.Proofs.Consistency
import Assembler.Proofs.Names

/-!
# Renaming

Names are opaque to the assembler: they are compared, and nothing else is done with them. Each pass
therefore commutes with an injective renaming, as far as errors are told apart by their kind and
their location. The operands of an image name nothing, so of an image only the labels and the table
are renamed.
-/

namespace Assembler

open Outcome (Agree)

variable {f g : Text → Text} {location : Option Location}

/-! ## Errors -/

/-- The kinds of causes. -/
inductive Cause.Kind where
  | shape
  | invalidLiteral
  | overflow
  | undefined
  | duplicate
  | unresolved
  | frozen
  | misplaced
  | pseudoLeft
  | nothingAssembled
  deriving DecidableEq, Repr

/-- The kind of a cause. -/
def Cause.kind : Cause → Kind
  | .shape _ => .shape
  | .invalidLiteral .. => .invalidLiteral
  | .overflow _ => .overflow
  | .undefined .. => .undefined
  | .duplicate .. => .duplicate
  | .unresolved _ => .unresolved
  | .frozen _ => .frozen
  | .misplaced .. => .misplaced
  | .pseudoLeft _ => .pseudoLeft
  | .nothingAssembled => .nothingAssembled

/-- Two errors are the same fault, or two diagnostics of one kind at one location. -/
inductive Error.Alike : Error → Error → Prop
  | diagnostic {location : Option Location} {cause other : Cause}
      (kinds : cause.kind = other.kind) : Alike (.located location cause) (.located location other)
  | fault (fault : Fault) : Alike (.fault fault) (.fault fault)

theorem Error.Alike.refl (e : Error) : e.Alike e := by
  cases e with
  | diagnostic d => exact .diagnostic rfl
  | fault f => exact .fault f

/-! ## Tables -/

/-- A symbol with its name renamed. -/
def Symbol.renamed (f : Text → Text) (s : Symbol) : Symbol := { s with name := f s.name }

namespace SymbolTable

variable {t : SymbolTable}

/-- A table with all its names renamed. -/
def renamed (f : Text → Text) (t : SymbolTable) : SymbolTable :=
  { t with
    symbols := t.symbols.map (Symbol.renamed f)
    references := t.references.map fun (name, uses) => (f name, uses) }

theorem renamed_congr (symbols : ∀ name ∈ t.names, f name = g name)
    (references : ∀ name ∈ t.references.map Prod.fst, f name = g name) :
    t.renamed f = t.renamed g := by
  have each : ∀ s ∈ t.symbols, s.renamed f = s.renamed g := by
    intro s member
    rw [Symbol.renamed, Symbol.renamed, symbols s.name (List.mem_map_of_mem member)]
  have uses : ∀ use ∈ t.references, (f use.1, use.2) = (g use.1, use.2) := by
    intro use member
    rw [references use.1 (List.mem_map_of_mem member)]
  rw [renamed, renamed, List.map_congr_left each, List.map_congr_left uses]

section Injective

variable (injective : Function.Injective f)
include injective

theorem find?_renamed (name : Text) :
    (t.renamed f).find? (f name) = (t.find? name).map (Symbol.renamed f) := by
  rw [find?, find?, renamed, List.find?_map]
  simp only [Function.comp_def, Symbol.renamed, injective.eq_iff]

theorem lookup_renamed (name : Text) :
    Agree Error.Alike (fun s u => u = s.renamed f) (t.lookup name location)
      ((t.renamed f).lookup (f name) location) := by
  unfold lookup
  rw [find?_renamed injective]
  cases t.find? name with
  | none => exact .error (.diagnostic rfl)
  | some s => exact .ok rfl

theorem define_renamed (name : Text) (address : Int) (segment : Segment) (place : Location) :
    Agree Error.Alike (fun defined redefined => redefined = defined.renamed f)
      (t.define name address segment place)
      ((t.renamed f).define (f name) address segment place) := by
  unfold define
  rw [find?_renamed injective, show (t.renamed f).frozen = t.frozen from rfl]
  by_cases frozen : t.frozen = true
  · simp only [frozen, if_true]
    exact .error (.diagnostic rfl)
  · simp only [frozen, Bool.false_eq_true, if_false]
    cases t.find? name with
    | none => exact .ok (by simp [renamed, Symbol.renamed])
    | some first => exact .error (.diagnostic rfl)

theorem addUse_renamed (name : Text) (uses : List (Text × List (Option Location))) :
    addUse (f name) location (uses.map fun (other, places) => (f other, places)) =
      (addUse name location uses).map fun (other, places) => (f other, places) := by
  induction uses with
  | nil => rfl
  | cons first rest ih =>
    obtain ⟨other, places⟩ := first
    simp only [List.map_cons, addUse, injective.eq_iff]
    by_cases same : other = name
    · simp [same]
    · simp only [same, if_false, List.map_cons, ih]

theorem note_renamed (name : Text) :
    (t.renamed f).note (f name) location = (t.note name location).renamed f := by
  simp only [note, renamed, addUse_renamed injective]

end Injective

end SymbolTable

/-! ## Fields -/

theorem Operand.fit_renamed (o : Operand) (width : Int) (signedness : Signedness) :
    (o.renamed f).fit width signedness location = o.fit width signedness location := by
  cases o <;> rfl

/-- An operand that has a value names nothing. -/
theorem Operand.nameless_of_fit {o : Operand} {width : Int} {signedness : Signedness}
    {value : Int} (found : o.fit width signedness location = .ok value) : o.names = [] := by
  cases o with
  | numeral | number | address => rfl
  | fixed | label =>
    simp only [fit] at found
    split at found <;> cases found

namespace Element

variable {kind : ListKind}

theorem size_renamed (element : Element) (bits : Int) :
    (element.renamed f).size bits location = element.size bits location := by
  cases element with
  | block o => exact o.fit_renamed bits .unsigned
  | list kind operands => simp [renamed, size]

theorem valuesIn_renamed (operands : List Operand) :
    valuesIn kind location (operands.map (Operand.renamed f)) =
      valuesIn kind location operands := by
  induction operands with
  | nil => rfl
  | cons o rest ih =>
    have first : valueIn kind location (o.renamed f) = valueIn kind location o := by
      cases o <;> rfl
    simp only [List.map_cons, valuesIn, first, ih]

theorem values_renamed (element : Element) :
    (element.renamed f).values location = element.values location := by
  cases element with
  | block o => rfl
  | list kind operands => exact valuesIn_renamed operands

/-- An element with a size and values names nothing. -/
theorem nameless_of_values {element : Element} {bits size : Int} {values : List Int}
    (sized : element.size bits location = .ok size)
    (valued : element.values location = .ok values) : element.names = [] := by
  cases element with
  | block o => exact Operand.nameless_of_fit sized
  | list kind operands =>
    apply List.flatMap_eq_nil_iff.mpr
    intro o member
    obtain ⟨value, -, found⟩ :=
      Correspondence.mem_left (valuesIn_eq_ok_iff.mp valued) member
    cases o with
    | numeral | number | address => rfl
    | fixed | label => cases found

end Element

/-! ## Layout -/

/-- A data element with its label renamed. -/
def PlacedData.relabelled (f : Text → Text) (d : PlacedData) : PlacedData :=
  { d with label := d.label.map f }

namespace Layout

theorem placeData_renamed (w : WordSize) (address : Int) (place : Location)
    (statement : Statement Element) :
    placeData w address place (statement.renamed Element.renamed f) =
      (placeData w address place statement).map fun (size, d) => (size, d.relabelled f) := by
  simp only [placeData, Statement.renamed, Element.size_renamed, Element.values_renamed]
  cases sized : statement.body.size w.bits place with
  | error e => rfl
  | ok size =>
    cases valued : statement.body.values place with
    | error e => rfl
    | ok values =>
      simp only [Element.renamed_of_nameless (Element.nameless_of_values sized valued)]
      rfl

theorem placeInstruction_renamed (w : WordSize) (address : Int) (place : Location)
    (statement : Statement Instruction) :
    placeInstruction w address place (statement.renamed Instruction.renamed f) =
      placeInstruction w address place statement := by
  have counts : (statement.body.renamed f).wordCount w.bits place =
      statement.body.wordCount w.bits place := by
    cases statement.body with
    | foreign thing => rfl
    | form body =>
      cases body with
      | loadWord rd imm =>
        simp only [Instruction.renamed, Form.renamed, Instruction.wordCount, Form.wordCount,
          Operand.fit_renamed]
      | _ => rfl
  rw [placeInstruction, placeInstruction, Statement.renamed, counts]

theorem defineLabel_renamed (injective : Function.Injective f) (symbols : SymbolTable)
    (label : Option Text) (address : Int) (place : Location) :
    Agree Error.Alike (fun defined redefined => redefined = defined.renamed f)
      (defineLabel symbols label address place)
      (defineLabel (symbols.renamed f) (label.map f) address place) := by
  cases label with
  | none => exact .ok rfl
  | some name => exact SymbolTable.define_renamed injective name address place.segment place

/-- The layout of a program with other names: labels and table are renamed, all else stays. -/
theorem build_renamed (injective : Function.Injective f) (program : Program) (config : Config) :
    Agree (fun stop halt => stop.error.Alike halt.error)
      (Alike (fun t u => u = t.renamed f) fun d e => e = d.relabelled f)
      (build program config) (build (program.renamed f) config) := by
  have maps : ∀ {α : Type} (h : α → α) (items : List α),
      List.Forall₂ (fun a b => b = h a) items (items.map h) := by
    intro α h items
    rw [List.forall₂_map_right_iff]
    exact List.forall₂_same.mpr fun _ _ => rfl
  apply build_agree (D := fun s u => u = s.renamed Element.renamed f)
    (C := fun s u => u = s.renamed Instruction.renamed f) Error.Alike.refl
  · constructor
    · rintro symbols _ statement _ address place rfl rfl
      exact defineLabel_renamed injective symbols statement.label address place
    · rintro statement _ address place rfl
      rw [placeData_renamed]
      cases placeData config.wordSize address place statement with
      | ok placed => exact .ok ⟨rfl, rfl⟩
      | error e => exact .error (.refl e)
  · constructor
    · rintro symbols _ statement _ address place rfl rfl
      exact defineLabel_renamed injective symbols statement.label address place
    · rintro statement _ address place rfl
      rw [placeInstruction_renamed]
      exact (Agree.refl .refl _).mono (fun _ _ => id) fun a b same => by simp [same]
  · rfl
  · exact maps _ program.data
  · exact maps _ program.instructions

end Layout

/-! ## Expansion -/

theorem Operand.checkImmediate_renamed (o : Operand) (signedness : Signedness) :
    (o.renamed f).checkImmediate signedness location =
      (o.checkImmediate signedness location).map (Operand.renamed f) := by
  rw [checkImmediate, checkImmediate, fit_renamed]
  cases o.fit Bits.immediateWidth signedness location <;> rfl

theorem Operand.checkLoad_renamed (o : Operand) (signedness : Signedness) :
    (o.renamed f).checkLoad signedness location =
      (o.checkLoad signedness location).map (Operand.renamed f) := by
  rw [checkLoad, checkLoad, isNumber_renamed, checkImmediate_renamed]
  split <;> rfl

theorem Operand.checkTarget_renamed (o : Operand) (bits : Int) :
    (o.renamed f).checkTarget bits location =
      (o.checkTarget bits location).map (Operand.renamed f) := by
  cases o with
  | fixed value =>
    simp only [renamed, checkTarget, fit_renamed]
    cases value.fit bits .unsigned location <;> rfl
  | _ => rfl

namespace Form

variable {bits : Int}

theorem checkOperands_renamed (form : Form) :
    (form.renamed f).checkOperands bits location =
      (form.checkOperands bits location).map (renamed f) := by
  cases form with
  | immSigned op rd rs o | immUnsigned op rd rs o | loadStore op rd o rbase =>
    simp only [renamed, checkOperands, Operand.checkImmediate_renamed]
    cases o.checkImmediate _ location <;> rfl
  | loadImm op rd o | setImm op rd o =>
    simp only [renamed, checkOperands, Operand.checkLoad_renamed]
    cases o.checkLoad _ location <;> rfl
  | branch op rs o | jump op o =>
    simp only [renamed, checkOperands, Operand.checkTarget_renamed]
    cases o.checkTarget bits location <;> rfl
  | _ => rfl

theorem loadWordForms_renamed (rd : Register) (value : Int) (width : Nat) :
    (loadWordForms rd value width).map (renamed f) = loadWordForms rd value width := by
  unfold loadWordForms
  split <;> rfl

theorem expand_renamed (form : Form) :
    (form.renamed f).expand bits location =
      (form.expand bits location).map (List.map (renamed f)) := by
  cases pseudo : form.isPseudo with
  | false =>
    have again : (form.renamed f).isPseudo = false := by
      cases form with
      | push | pop | loadWord | loadAddress => cases pseudo
      | _ => rfl
    rw [expand_of_canonical pseudo, expand_of_canonical again, checkOperands_renamed]
    cases form.checkOperands bits location <;> rfl
  | true =>
    cases form with
    | push | pop | loadAddress => rfl
    | loadWord rd o =>
      simp only [renamed, expand, Operand.fit_renamed]
      cases o.fit bits .signed location with
      | error e => rfl
      | ok value => simp only [Except.map, loadWordForms_renamed]
    | _ => simp [isPseudo] at pseudo

/-- Labels stand only where they are looked up: in jumps and in loads of halves. -/
def Settled : Form → Prop
  | .branch .. | .jump .. | .loadImm .. | .setImm .. => True
  | other => other.names = []

theorem checkOperands_settled {form checked : Form} (canonical : form.isPseudo = false)
    (done : form.checkOperands bits location = .ok checked) : checked.Settled := by
  cases form with
  | push | pop | loadWord | loadAddress => cases canonical
  | immSigned op rd rs o | immUnsigned op rd rs o | loadStore op rd o rbase =>
    obtain ⟨number, fit, rfl⟩ := Outcome.map_eq_ok_iff.mp done
    obtain ⟨value, -, rfl⟩ := Outcome.map_eq_ok_iff.mp fit
    rfl
  | loadImm | setImm | branch | jump =>
    obtain ⟨o, -, rfl⟩ := Outcome.map_eq_ok_iff.mp done
    trivial
  | _ =>
    cases done
    rfl

theorem expand_settled {form : Form} {forms : List Form}
    (expanded : form.expand bits location = .ok forms) : ∀ g ∈ forms, g.Settled := by
  cases pseudo : form.isPseudo with
  | false =>
    rw [expand_of_canonical pseudo] at expanded
    obtain ⟨checked, done, rfl⟩ := Outcome.map_eq_ok_iff.mp expanded
    intro g member
    rw [List.mem_singleton.mp member]
    exact checkOperands_settled pseudo done
  | true =>
    cases form with
    | push | pop =>
      cases expanded
      rw [List.forall_mem_cons, List.forall_mem_singleton]
      exact ⟨rfl, rfl⟩
    | loadAddress =>
      cases expanded
      rw [List.forall_mem_cons, List.forall_mem_singleton]
      exact ⟨trivial, trivial⟩
    | loadWord rd o =>
      obtain ⟨value, -, rfl⟩ := Outcome.map_eq_ok_iff.mp expanded
      unfold loadWordForms
      split <;> simp [Settled]
    | _ => simp [isPseudo] at pseudo

end Form

namespace PlacedInstruction

/-- An instruction with all its names renamed. -/
def renamed (f : Text → Text) (p : PlacedInstruction) : PlacedInstruction :=
  { p with instruction := p.instruction.renamed f, label := p.label.map f }

/-- An instruction with its label renamed. -/
def relabelled (f : Text → Text) (p : PlacedInstruction) : PlacedInstruction :=
  { p with label := p.label.map f }

end PlacedInstruction

theorem placeForms_renamed {bits : Int} {place : Location} {expandedFrom : Option Opcode}
    {address : Int} {label : Option Text} {forms : List Form} :
    placeForms bits place expandedFrom address (label.map f) (forms.map (Form.renamed f)) =
      (placeForms bits place expandedFrom address label forms).map
        (PlacedInstruction.renamed f) := by
  induction forms generalizing address label with
  | nil => rfl
  | cons form rest ih =>
    have later := @ih (address + WordSize.bytesIn bits) none
    rw [List.map_cons, placeForms, placeForms, List.map_cons, ← later]
    rfl

theorem expandFrom_renamed {bits : Int} (index : Nat) (statements : List (Statement Instruction))
    (addresses : List Int) :
    expandFrom bits index (statements.map (Statement.renamed Instruction.renamed f)) addresses =
      (expandFrom bits index statements addresses).map
        (List.map (PlacedInstruction.renamed f)) := by
  induction statements generalizing index addresses with
  | nil => rfl
  | cons statement rest ih =>
    cases addresses with
    | nil => rfl
    | cons address addresses =>
      have body : (statement.body.renamed f).expand bits (instructionLocation index) =
          (statement.body.expand bits (instructionLocation index)).map
            (List.map (Form.renamed f)) := by
        cases statement.body with
        | form body => exact body.expand_renamed
        | foreign thing => rfl
      simp only [List.map_cons, expandFrom, Statement.renamed, body, ih]
      cases statement.body.expand bits (instructionLocation index) with
      | error e => rfl
      | ok forms =>
        cases expandFrom bits (index + 1) rest addresses with
        | error e => rfl
        | ok later =>
          simp [Except.map, placeForms_renamed]

/-! ## Resolution -/

namespace Resolution

variable {symbols : SymbolTable}

theorem finished_renamed (o : Operand) (unlabelled : o.label? = none) :
    Agree Error.Alike Eq (finished location o) (finished location (o.renamed f)) := by
  cases o with
  | numeral | number | address => exact .ok rfl
  | label name => cases unlabelled
  | fixed value =>
    have texts := (Operand.fixed value).isSome_text?_renamed (f := f)
    simp only [Operand.renamed, finished] at texts ⊢
    cases first : (Operand.fixed value).text? <;>
      cases second : (Operand.fixed (value.renamed f)).text? <;> simp [first, second] at texts
    · exact .error (.fault _)
    · exact .error (.diagnostic rfl)

section Injective

variable (injective : Function.Injective f)
include injective

theorem resolveTarget_renamed (o : Operand) :
    Agree Error.Alike Eq (resolveTarget symbols location o)
      (resolveTarget (symbols.renamed f) location (o.renamed f)) := by
  cases o with
  | label name =>
    refine (SymbolTable.lookup_renamed injective name).map ?_
    rintro s _ rfl
    rfl
  | fixed value =>
    cases value with
    | number n => exact .ok rfl
    | _ => exact .error (.fault _)
  | _ => exact .ok rfl

theorem resolveLow_renamed (o : Operand) :
    Agree Error.Alike Eq (resolveLow symbols location o)
      (resolveLow (symbols.renamed f) location (o.renamed f)) := by
  cases o with
  | label name =>
    refine (SymbolTable.lookup_renamed injective name).map ?_
    rintro s _ rfl
    rfl
  | fixed value => exact finished_renamed (.fixed value) rfl
  | _ => exact .ok rfl

theorem resolveHigh_renamed (o : Operand) :
    Agree Error.Alike Eq (resolveHigh symbols location o)
      (resolveHigh (symbols.renamed f) location (o.renamed f)) := by
  cases o with
  | label name =>
    simp only [Operand.renamed, resolveHigh]
    have lookups : Agree Error.Alike (fun s u => u = s.renamed f) (symbols.lookup name location)
        ((symbols.renamed f).lookup (f name) location) :=
      SymbolTable.lookup_renamed injective name
    rcases lookups.cases with ⟨s, u, found, refound, rfl⟩ | ⟨e, d, found, refound, errors⟩
    · rw [found, refound]
      -- The two complaints call the high half by different names.
      have named : ∀ called : Text,
          ("high half of '" ++ called ++ "' (0x" ++ Text.hex s.address ++ ")" : Text) ≠ [] := by
        intro called
        simp [Text.ofString]
      simp only [Symbol.renamed]
      cases fits : (Signedness.range Bits.immediateWidth .unsigned).holds
          (Bits.split s.address Bits.immediateWidth).2 with
      | true =>
        rw [(requireFitsAt_eq_ok_iff FieldWidth.immediate).mpr ⟨fits, rfl⟩,
          (requireFitsAt_eq_ok_iff FieldWidth.immediate).mpr ⟨fits, rfl⟩]
        exact .ok rfl
      | false =>
        rw [(requireFitsAt_unsigned_eq_error_iff FieldWidth.immediate (named s.name)).mpr
            ⟨fits, rfl⟩,
          (requireFitsAt_unsigned_eq_error_iff FieldWidth.immediate (named (f s.name))).mpr
            ⟨fits, rfl⟩]
        exact .error (.diagnostic rfl)
    · rw [found, refound]
      exact .error errors
  | fixed value => exact finished_renamed (.fixed value) rfl
  | _ => exact .ok rfl

/-- Once its labels are replaced, an instruction is the same under all names. -/
theorem resolveForm_renamed {form : Form} (settled : form.Settled) :
    Agree Error.Alike Eq (resolveForm symbols location form)
      (resolveForm (symbols.renamed f) location (form.renamed f)) := by
  cases form with
  | branch op rs o => exact (resolveTarget_renamed injective o).map fun _ _ => congrArg _
  | jump op o => exact (resolveTarget_renamed injective o).map fun _ _ => congrArg _
  | loadImm op rd o => exact (resolveLow_renamed injective o).map fun _ _ => congrArg _
  | setImm op rd o => exact (resolveHigh_renamed injective o).map fun _ _ => congrArg _
  | _ =>
    rw [Form.renamed_of_nameless settled]
    exact .ok rfl

theorem noteUse_renamed (p : PlacedInstruction) :
    noteUse (symbols.renamed f) (p.renamed f) = (noteUse symbols p).renamed f := by
  unfold noteUse
  rw [PlacedInstruction.renamed, Instruction.label?_renamed]
  cases p.instruction.label? with
  | none => rfl
  | some name => exact SymbolTable.note_renamed injective name

/-- An instruction gives rise to a warning under all names or under none. -/
theorem isSome_mismatch?_renamed (p : PlacedInstruction) :
    (mismatch? (symbols.renamed f) (p.renamed f)).isSome = (mismatch? symbols p).isSome := by
  obtain ⟨address, instruction, place, label, expandedFrom⟩ := p
  cases instruction with
  | foreign thing => rfl
  | form form =>
    cases form with
    | loadImm op rd o =>
      cases o with
      | label name =>
        cases expandedFrom with
        | none => rfl
        | some pseudo =>
          simp only [mismatch?, PlacedInstruction.renamed, Instruction.renamed, Form.renamed,
            Operand.renamed, SymbolTable.find?_renamed injective]
          cases symbols.find? name with
          | none => rfl
          | some s =>
            cases expectedSegment (some pseudo) with
            | none => rfl
            | some expected =>
              simp only [Option.map_some, Symbol.renamed]
              split <;> rfl
      | _ => rfl
    | _ => rfl

end Injective

end Resolution

/-- The second pass under other names: the table is renamed, there are as many warnings, and the
instructions are the same but for their labels. -/
theorem resolve_renamed (injective : Function.Injective f) (symbols : SymbolTable)
    {placed : List PlacedInstruction}
    (settled : ∀ p ∈ placed, ∃ form, p.instruction = .form form ∧ form.Settled) :
    (resolve (symbols.renamed f) (placed.map (PlacedInstruction.renamed f))).symbols =
        (resolve symbols placed).symbols.renamed f ∧
      (resolve (symbols.renamed f) (placed.map (PlacedInstruction.renamed f))).warnings.length =
        (resolve symbols placed).warnings.length ∧
      Agree Error.Alike (fun resolved again => again = resolved.map (.relabelled f))
        (resolve symbols placed).outcome
        (resolve (symbols.renamed f) (placed.map (PlacedInstruction.renamed f))).outcome := by
  induction placed generalizing symbols with
  | nil => exact ⟨rfl, rfl, .ok rfl⟩
  | cons p rest ih =>
    obtain ⟨⟨form, isForm, own⟩, others⟩ := List.forall_mem_cons.mp settled
    obtain ⟨tables, warnings, outcomes⟩ := ih (Resolution.noteUse symbols p) others
    have step : Agree Error.Alike Eq
        (Resolution.resolveInstruction (Resolution.noteUse symbols p) p.location p.instruction)
        (Resolution.resolveInstruction ((Resolution.noteUse symbols p).renamed f) p.location
          (p.instruction.renamed f)) := by
      rw [isForm]
      exact (Resolution.resolveForm_renamed injective own).map fun _ _ => congrArg _
    simp only [List.map_cons, resolve, Resolution.noteUse_renamed injective]
    rcases step.cases with ⟨instruction, _, done, redone, rfl⟩ | ⟨e, d, done, redone, errors⟩
    · have here : (Resolution.mismatch? ((Resolution.noteUse symbols p).renamed f)
          (p.renamed f)).isSome = (Resolution.mismatch? (Resolution.noteUse symbols p) p).isSome :=
        Resolution.isSome_mismatch?_renamed injective p
      have counts : ∀ {x y : Option Text}, x.isSome = y.isSome →
          x.toList.length = y.toList.length := by
        intro x y same
        cases x <;> cases y <;> simp_all
      simp only [PlacedInstruction.renamed] at redone here ⊢
      simp only [done, redone]
      refine ⟨tables, ?_, ?_⟩
      · rw [List.length_append, List.length_append, counts here]
        exact congrArg _ warnings
      · refine outcomes.map ?_
        rintro resolved _ rfl
        rfl
    · simp only [PlacedInstruction.renamed]
      rw [done, redone]
      exact ⟨rfl, rfl, .error errors⟩

/-! ## Images -/

namespace Image

/-- An image with its labels and its table renamed. -/
def renamed (f : Text → Text) (image : Image) : Image :=
  { image with
    data := image.data.map (PlacedData.relabelled f)
    instructions := image.instructions.map (PlacedInstruction.relabelled f)
    symbols := image.symbols.renamed f }

/-- The second image is the first one renamed. Warnings show names, so only their number is
compared. -/
structure IsRenamed (f : Text → Text) (image again : Image) : Prop where
  contents : again = { image.renamed f with warnings := again.warnings }
  warnings : again.warnings.length = image.warnings.length

end Image

section Assembly

variable {program : Program} {config : Config} {image : Image} {layout : Layout}
  {blocks : List (List PlacedInstruction)}

theorem Expanded.settled (expanded : Expanded program config layout blocks) :
    ∀ p ∈ blocks.flatten, ∃ form, p.instruction = .form form ∧ form.Settled := by
  intro p member
  obtain ⟨k, j, statement, address, forms, form, -, -, expands, inForms, rfl⟩ :=
    expanded.expands.origin member
  obtain ⟨original, -, formExpands⟩ := Instruction.expand_eq_ok_iff.mp expands
  exact ⟨form, rfl, Form.expand_settled formExpands form (List.mem_of_getElem? inForms)⟩

/-- An assembly commutes with an injective renaming. -/
theorem assemble_renamed (injective : Function.Injective f) (program : Program)
    (config : Config) :
    Agree Error.Alike (Image.IsRenamed f) (assemble program config)
      (assemble (program.renamed f) config) := by
  rcases (Layout.build_renamed injective program config).cases with
    ⟨layout, again, built, rebuilt, alike⟩ | ⟨stop, halt, built, rebuilt, errors⟩
  · have expansion : expandSegment config.wordSize.bits (program.renamed f).instructions
        again.instructionAddresses =
          (expandSegment config.wordSize.bits program.instructions
            layout.instructionAddresses).map (List.map (PlacedInstruction.renamed f)) := by
      rw [alike.rest]
      exact expandFrom_renamed 0 program.instructions layout.instructionAddresses
    cases expands : expandSegment config.wordSize.bits program.instructions
        layout.instructionAddresses with
    | error e =>
      rw [expands] at expansion
      simp only [assemble, built, rebuilt, expands, expansion, Except.map]
      exact .error (.refl e)
    | ok placed =>
      rw [expands] at expansion
      obtain ⟨blocks, expanded, rfl⟩ := (expandSegment_eq_ok_iff built).mp expands
      obtain ⟨others, reexpanded, same⟩ := (expandSegment_eq_ok_iff rebuilt).mp expansion
      obtain ⟨tables, warnings, outcomes⟩ :=
        resolve_renamed injective layout.symbols expanded.settled
      rw [same, ← alike.symbols] at tables warnings outcomes
      rw [expanded.assemble_eq, reexpanded.assemble_eq]
      refine outcomes.map ?_
      rintro resolved _ rfl
      have data : again.data = layout.data.map (PlacedData.relabelled f) := by
        have pairs := alike.data
        rw [← List.forall₂_map_left_iff (f := PlacedData.relabelled f)
          (R := fun d e => e = d)] at pairs
        exact List.forall₂_eq_eq_eq ▸ pairs.flip
      refine ⟨?_, ?_⟩
      · rw [alike.rest]
        simp only [Image.ofLayout, Image.renamed, tables, data]
        rfl
      · rw [alike.rest]
        simp only [Image.ofLayout, List.length_append, warnings]
  · simp only [assemble, built, rebuilt]
    exact .error errors

/-- The names in an image are labels of the program, so only these need to be renamed alike. -/
theorem Image.renamed_congr (assembled : assemble program config = .ok image)
    (agree : ∀ name ∈ program.labels, f name = g name) : image.renamed f = image.renamed g := by
  obtain ⟨layout, blocks, passes⟩ := assemble_eq_ok_iff.mp assembled
  have dataLabels : image.data.filterMap PlacedData.label =
      program.data.filterMap Statement.label := by
    rw [passes.data_eq, ← Layout.build_data_labels passes.built, List.filterMap_map]
    rfl
  have codeLabels : image.instructions.filterMap PlacedInstruction.label =
      program.instructions.filterMap Statement.label := by
    rw [Resolution.filterMap_label passes.resolves, passes.expands.filterMap_label]
  have optional : ∀ label : Option Text, (∀ name, label = some name → name ∈ program.labels) →
      label.map f = label.map g := by
    intro label inside
    cases label with
    | none => rfl
    | some name => rw [Option.map_some, Option.map_some, agree name (inside name rfl)]
  have data : ∀ d ∈ image.data, d.relabelled f = d.relabelled g := by
    intro d member
    rw [PlacedData.relabelled, PlacedData.relabelled, optional d.label]
    intro name label
    apply List.mem_append_left
    rw [← dataLabels]
    exact List.mem_filterMap.mpr ⟨d, member, label⟩
  have code : ∀ p ∈ image.instructions, p.relabelled f = p.relabelled g := by
    intro p member
    rw [PlacedInstruction.relabelled, PlacedInstruction.relabelled, optional p.label]
    intro name label
    apply List.mem_append_right
    rw [← codeLabels]
    exact List.mem_filterMap.mpr ⟨p, member, label⟩
  have table : image.symbols.renamed f = image.symbols.renamed g := by
    apply SymbolTable.renamed_congr
    · rwa [passes.names_eq]
    · intro name used
      have defined := (Image.build_eq_ok_iff.mp passes.checked).2.1
      rw [passes.image_eq] at used
      have member := defined name used
      rw [SymbolTable.names, (resolve_frame _ _).1, ← SymbolTable.names,
        Layout.build_names passes.built] at member
      exact agree name member
  rw [renamed, renamed, List.map_congr_left data, List.map_congr_left code, table]

/-- Names are opaque. If different names of a program are replaced by different names, the program
is assembled if it was before, to the same image under the new names. Otherwise it fails as before,
with an error of the same kind at the same location. -/
theorem assemble_renaming (injective : Set.InjOn f {name | name ∈ program.names}) :
    Agree Error.Alike (Image.IsRenamed f) (assemble program config)
      (assemble (program.renamed f) config) := by
  obtain ⟨g, everywhere, agree⟩ := exists_injective_of_injOn injective
  have labels : ∀ name ∈ program.labels, g name = f name :=
    fun name label => agree name (Program.mem_names_of_mem_labels label)
  have runs := assemble_renamed everywhere program config
  rw [Program.renamed_congr agree] at runs
  rcases runs.cases with ⟨image, again, first, second, renamed⟩ | ⟨e, d, first, second, errors⟩
  · rw [first, second]
    refine .ok ⟨?_, renamed.warnings⟩
    rw [← Image.renamed_congr first labels]
    exact renamed.contents
  · rw [first, second]
    exact .error errors

end Assembly

/-- Two labels of the sample program change places and the third becomes empty. -/
def swapped (name : Text) : Text :=
  if name = "start" then "end" else if name = "end" then "start" else []

theorem assemble_renaming_swapped :
    (∃ image, assemble Program.sample .sample = .ok image ∧
      image.symbols.names = (["table", "start", "end"] : List Text)) ∧
    (∃ image, assemble (Program.sample.renamed swapped) .sample = .ok image ∧
      image.symbols.names = ([[], "end", "start"] : List Text)) ∧
    Agree Error.Alike (Image.IsRenamed swapped) (assemble Program.sample .sample)
      (assemble (Program.sample.renamed swapped) .sample) := by
  have injective : ∀ a ∈ Program.sample.names, ∀ b ∈ Program.sample.names,
      swapped a = swapped b → a = b := by decide +kernel
  exact ⟨⟨_, rfl, by decide +kernel⟩, ⟨_, rfl, by decide +kernel⟩,
    assemble_renaming fun a first b second => injective a first b second⟩

end Assembler
