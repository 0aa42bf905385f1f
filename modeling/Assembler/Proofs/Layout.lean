import Assembler.Layout
import Assembler.Proofs.Fitting
import Assembler.Proofs.SymbolTable

/-!
# Laws of the layout

`Walk` lists the steps of a walk over a segment that succeeds, so that every fact about addresses
and labels is an induction over the steps; `StopsAt` lists the ways in which a walk stops at a
statement. From them follow the table of labels in closed form, the tiling of the data segment
and the bounds of the address space.
-/

namespace Assembler.Layout

variable {α β : Type} {w : WordSize} {segment : Segment} {place : Placing α β}

/-- A walk that succeeds: each statement enters its label, is placed, and ends in the address
space. -/
inductive Walk (w : WordSize) (segment : Segment) (place : Placing α β) :
    Nat → Int → SymbolTable → List (Statement α) → Walked β → Prop
  | nil {index : Nat} {address : Int} {symbols : SymbolTable} :
    Walk w segment place index address symbols [] ⟨address, [], symbols⟩
  | cons {index : Nat} {address size : Int} {symbols defined : SymbolTable}
      {statement : Statement α} {rest : List (Statement α)} {record : β} {walked : Walked β}
      (label : defineLabel symbols statement.label address ⟨segment, index⟩ = .ok defined)
      (placed : place address ⟨segment, index⟩ statement = .ok (size, record))
      (ends : w.holds (address + max size 1 - 1) = true)
      (others : Walk w segment place (index + 1) (address + size) defined rest walked) :
    Walk w segment place index address symbols (statement :: rest)
      ⟨walked.next, record :: walked.placed, walked.symbols⟩

/-- The ways in which a walk stops at a statement, in the order in which they are looked for. -/
inductive StopsAt (w : WordSize) (place : Placing α β) (location : Location) (address : Int)
    (symbols : SymbolTable) (statement : Statement α) : Stop → Prop
  | label {e : Error} (failed : defineLabel symbols statement.label address location = .error e) :
    StopsAt w place location address symbols statement ⟨e, symbols⟩
  | place {defined : SymbolTable} {e : Error}
      (label : defineLabel symbols statement.label address location = .ok defined)
      (failed : place address location statement = .error e) :
    StopsAt w place location address symbols statement ⟨e, defined⟩
  | ends {defined : SymbolTable} {size : Int} {record : β} {e : Error}
      (label : defineLabel symbols statement.label address location = .ok defined)
      (placed : place address location statement = .ok (size, record))
      (failed : checkEnd w address size location = .error e) :
    StopsAt w place location address symbols statement ⟨e, defined⟩

/-! ## Steps -/

theorem checkEnd_eq_ok_iff {address size last : Int} {location : Location} :
    checkEnd w address size location = .ok last ↔
      w.holds (address + max size 1 - 1) = true ∧ last = address + max size 1 - 1 :=
  requireFitsAt_eq_ok_iff w.fieldWidth

theorem hexName_ne_nil (value : Int) : ("0x" ++ Text.hex value : Text) ≠ [] := by
  simp [Text.ofString]

/-- A statement that ends outside the address space is reported by its last address. -/
theorem checkEnd_eq_error_iff {address size : Int} {location : Location} {e : Error} :
    checkEnd w address size location = .error e ↔
      w.holds (address + max size 1 - 1) = false ∧
        e = .located location (.overflow
          ⟨some ("0x" ++ Text.hex (address + max size 1 - 1)), w.bits, .unsigned,
            Bits.unsignedRange w.bits⟩) :=
  requireFitsAt_unsigned_eq_error_iff w.fieldWidth (hexName_ne_nil _)

/-- The symbol of a label, if there is one. -/
def labelSymbol (label : Option Text) (address : Int) (location : Location) : List Symbol :=
  (label.map fun name => ⟨name, address, location.segment, location⟩).toList

theorem defineLabel_eq_ok {symbols defined : SymbolTable} {label : Option Text} {address : Int}
    {location : Location} (entered : defineLabel symbols label address location = .ok defined) :
    defined = { symbols with symbols := symbols.symbols ++ labelSymbol label address location } ∧
      (symbols.Distinct → defined.Distinct) := by
  cases label with
  | none =>
    cases entered
    exact ⟨by simp [labelSymbol], id⟩
  | some name =>
    refine ⟨?_, fun distinct => distinct.define entered⟩
    obtain ⟨-, -, rfl⟩ := SymbolTable.define_eq_ok_iff.mp entered
    simp [labelSymbol]

/-! ## Walks as functions -/

theorem walk_eq_ok_iff {index : Nat} {address : Int} {symbols : SymbolTable}
    {statements : List (Statement α)} {walked : Walked β} :
    walk w segment place index address symbols statements = .ok walked ↔
      Walk w segment place index address symbols statements walked := by
  constructor
  · intro walks
    induction statements generalizing index address symbols walked with
    | nil =>
      cases walks
      exact .nil
    | cons statement rest ih =>
      simp only [walk] at walks
      split at walks
      · cases walks
      · rename_i label
        split at walks
        · cases walks
        · rename_i placed
          split at walks
          · cases walks
          · rename_i ends
            split at walks
            · cases walks
            · rename_i others
              cases walks
              exact .cons label placed (checkEnd_eq_ok_iff.mp ends).1 (ih others)
  · intro steps
    induction steps with
    | nil => rfl
    | @cons index address size symbols defined statement rest record walked label placed ends
        others ih =>
      have checked : checkEnd w address size ⟨segment, index⟩ = .ok (address + max size 1 - 1) :=
        checkEnd_eq_ok_iff.mpr ⟨ends, rfl⟩
      simp [walk, label, placed, checked, ih]

/-- A walk that fails does so at one statement, after a walk over those before it. -/
theorem walk_eq_error {index : Nat} {address : Int} {symbols : SymbolTable}
    {statements : List (Statement α)} {stop : Stop}
    (failed : walk w segment place index address symbols statements = .error stop) :
    ∃ before statement after walked, statements = before ++ statement :: after ∧
      Walk w segment place index address symbols before walked ∧
      StopsAt w place ⟨segment, (index + before.length : Nat)⟩ walked.next walked.symbols
        statement stop := by
  induction statements generalizing index address symbols with
  | nil => cases failed
  | cons statement rest ih =>
    simp only [walk] at failed
    split at failed
    · rename_i label
      cases failed
      exact ⟨[], statement, rest, _, rfl, .nil, .label label⟩
    · rename_i label
      split at failed
      · rename_i place
        cases failed
        exact ⟨[], statement, rest, _, rfl, .nil, .place label place⟩
      · rename_i placed
        split at failed
        · rename_i ends
          cases failed
          exact ⟨[], statement, rest, _, rfl, .nil, .ends label placed ends⟩
        · rename_i ends
          split at failed
          · rename_i others
            cases failed
            obtain ⟨before, later, after, walked, rfl, steps, stops⟩ := ih others
            refine ⟨statement :: before, later, after, _, rfl,
              .cons label placed (checkEnd_eq_ok_iff.mp ends).1 steps, ?_⟩
            rwa [List.length_cons, Nat.add_comm before.length 1, ← Nat.add_assoc]
          · cases failed

/-! ## What a walk records -/

/-- `start` reads the address of a statement off its record. -/
def Records (place : Placing α β) (start : β → Int) : Prop :=
  ∀ {address : Int} {location : Location} {statement : Statement α} {size : Int} {record : β},
    place address location statement = .ok (size, record) → start record = address

theorem Walk.length_placed {index : Nat} {address : Int} {symbols : SymbolTable}
    {statements : List (Statement α)} {walked : Walked β}
    (steps : Walk w segment place index address symbols statements walked) :
    walked.placed.length = statements.length := by
  induction steps with
  | nil => rfl
  | cons _ _ _ _ ih => simp [ih]

/-- Each record comes from the statement at its position, placed at its own address. -/
theorem Walk.record {start : β → Int} (records : Records place start) {index : Nat}
    {address : Int} {symbols : SymbolTable} {statements : List (Statement α)}
    {walked : Walked β} (steps : Walk w segment place index address symbols statements walked)
    {k : Nat} {record : β} (found : walked.placed[k]? = some record) :
    ∃ statement size, statements[k]? = some statement ∧
      place (start record) ⟨segment, (index + k : Nat)⟩ statement = .ok (size, record) ∧
      w.holds (start record + max size 1 - 1) = true := by
  induction steps generalizing k with
  | nil => simp at found
  | @cons index address size symbols defined statement rest first walked label placed ends
      others ih =>
    cases k with
    | zero =>
      simp only [List.getElem?_cons_zero, Option.some.injEq] at found
      subst found
      rw [records placed]
      exact ⟨statement, size, rfl, placed, ends⟩
    | succ k =>
      obtain ⟨later, laterSize, source, laterPlaced, laterEnds⟩ := ih found
      refine ⟨later, laterSize, source, ?_, laterEnds⟩
      rwa [Nat.add_assoc, Nat.add_comm 1 k] at laterPlaced

/-- Addresses do not fall below the start of a walk if no size is negative. -/
theorem Walk.le_start {start : β → Int} (records : Records place start) {index : Nat}
    {address : Int} {symbols : SymbolTable} {statements : List (Statement α)}
    {walked : Walked β} (steps : Walk w segment place index address symbols statements walked)
    (sizes : ∀ statement ∈ statements, ∀ {address location size record},
      place address location statement = .ok (size, record) → 0 ≤ size) :
    address ≤ walked.next ∧ ∀ record ∈ walked.placed, address ≤ start record := by
  induction steps with
  | nil => simp
  | @cons index address size symbols defined statement rest first walked label placed ends
      others ih =>
    have nonneg := sizes statement List.mem_cons_self placed
    obtain ⟨next, later⟩ := ih fun other member => sizes other (List.mem_cons_of_mem _ member)
    refine ⟨by simp only; omega, ?_⟩
    intro record member
    rcases List.mem_cons.mp member with rfl | member
    · exact (records placed).ge
    · have := later record member
      omega

/-! ## The table of labels -/

/-- The symbols of statements at given addresses, which are numbered from an index on. -/
def labelSymbols (segment : Segment) : Nat → List (Statement α) → List Int → List Symbol
  | index, statement :: rest, address :: addresses =>
    labelSymbol statement.label address ⟨segment, index⟩ ++
      labelSymbols segment (index + 1) rest addresses
  | _, _, _ => []

/-- The table after a walk: the symbols of the labels follow those that were there. -/
theorem Walk.symbols_eq {start : β → Int} (records : Records place start) {index : Nat}
    {address : Int} {symbols : SymbolTable} {statements : List (Statement α)}
    {walked : Walked β} (steps : Walk w segment place index address symbols statements walked) :
    walked.symbols = { symbols with
      symbols := symbols.symbols ++
        labelSymbols segment index statements (walked.placed.map start) } := by
  induction steps with
  | nil => simp [labelSymbols]
  | @cons index address size symbols defined statement rest first walked label placed ends
      others ih =>
    rw [ih, (defineLabel_eq_ok label).1]
    simp [labelSymbols, records placed]

theorem Walk.distinct {index : Nat} {address : Int} {symbols : SymbolTable}
    {statements : List (Statement α)} {walked : Walked β}
    (steps : Walk w segment place index address symbols statements walked) :
    symbols.Distinct → walked.symbols.Distinct := by
  induction steps with
  | nil => exact id
  | cons label _ _ _ ih => exact ih ∘ (defineLabel_eq_ok label).2

/-- A symbol of the closed form belongs to a labelled statement and has its address. -/
theorem mem_labelSymbols {index : Nat} {statements : List (Statement α)} {addresses : List Int}
    {s : Symbol} :
    s ∈ labelSymbols segment index statements addresses ↔
      ∃ k statement, statements[k]? = some statement ∧ addresses[k]? = some s.address ∧
        statement.label = some s.name ∧ s.segment = segment ∧
        s.location = ⟨segment, (index + k : Nat)⟩ := by
  induction statements generalizing index addresses with
  | nil => simp [labelSymbols]
  | cons statement rest ih =>
    cases addresses with
    | nil => simp [labelSymbols]
    | cons address addresses =>
      simp only [labelSymbols, List.mem_append, ih]
      constructor
      · rintro (member | ⟨k, later, source, target, label, inSegment, located⟩)
        · simp only [labelSymbol, Option.mem_toList, Option.map_eq_some_iff] at member
          obtain ⟨name, label, rfl⟩ := member
          exact ⟨0, statement, rfl, rfl, label, rfl, rfl⟩
        · refine ⟨k + 1, later, source, target, label, inSegment, ?_⟩
          rw [located, Nat.add_assoc, Nat.add_comm 1 k]
      · rintro ⟨k, later, source, target, label, inSegment, located⟩
        cases k with
        | zero =>
          left
          simp only [List.getElem?_cons_zero, Option.some.injEq] at source target
          subst source target
          obtain ⟨name, symbolAddress, symbolSegment, symbolLocation⟩ := s
          simp only at label inSegment located
          subst inSegment located
          simp [labelSymbol, label]
        | succ k =>
          right
          refine ⟨k, later, source, target, label, inSegment, ?_⟩
          rw [located, Nat.add_assoc, Nat.add_comm 1 k]

theorem map_name_labelSymbols {index : Nat} {statements : List (Statement α)}
    {addresses : List Int} (length : addresses.length = statements.length) :
    (labelSymbols segment index statements addresses).map Symbol.name =
      statements.filterMap Statement.label := by
  induction statements generalizing index addresses with
  | nil => simp [labelSymbols]
  | cons statement rest ih =>
    cases addresses with
    | nil => simp at length
    | cons address addresses =>
      have tail := @ih (index + 1) addresses (by simpa using length)
      cases label : statement.label <;> simp [labelSymbols, labelSymbol, label, tail]

/-! ## The two segments -/

theorem placeData_eq_ok_iff {address size : Int} {location : Location}
    {statement : Statement Element} {record : PlacedData} :
    placeData w address location statement = .ok (size, record) ↔
      ∃ values, statement.body.size w.bits location = .ok size ∧
        statement.body.values location = .ok values ∧
        record = ⟨address, statement.body, location, statement.label, size, values⟩ := by
  unfold placeData
  cases statement.body.size w.bits location with
  | error e => simp
  | ok found =>
    cases statement.body.values location with
    | error e => simp
    | ok values =>
      simp only [Except.ok.injEq, Prod.mk.injEq]
      constructor
      · rintro ⟨rfl, rfl⟩
        exact ⟨values, rfl, rfl, rfl⟩
      · rintro ⟨_, rfl, rfl, rfl⟩
        exact ⟨rfl, rfl⟩

theorem placeData_records : Records (placeData w) PlacedData.address := by
  intro address location statement size record placed
  obtain ⟨values, -, -, rfl⟩ := placeData_eq_ok_iff.mp placed
  rfl

theorem placeInstruction_eq_ok_iff {address size record : Int} {location : Location}
    {statement : Statement Instruction} :
    placeInstruction w address location statement = .ok (size, record) ↔
      ∃ count, statement.body.wordCount w.bits location = .ok count ∧ size = count * w.bytes ∧
        record = address := by
  simp only [placeInstruction, Outcome.map_eq_ok_iff, Prod.mk.injEq]

theorem placeInstruction_records : Records (placeInstruction w) id := by
  intro address location statement size record placed
  obtain ⟨count, -, -, same⟩ := placeInstruction_eq_ok_iff.mp placed
  exact same

/-- Data elements lie one after the other from an address on, up to another address. -/
def Tiles : Int → List PlacedData → Int → Prop
  | start, [], stop => start = stop
  | start, d :: rest, stop => d.address = start ∧ Tiles (d.address + d.size) rest stop

/-- The walk over the data places its statements one after the other. -/
theorem Walk.tiles {index : Nat} {address : Int} {symbols : SymbolTable}
    {statements : List (Statement Element)} {walked : Walked PlacedData}
    (steps : Walk w .data (placeData w) index address symbols statements walked) :
    Tiles address walked.placed walked.next ∧
      walked.placed.map (fun d => (⟨d.element, d.label⟩ : Statement Element)) = statements := by
  induction steps with
  | nil => exact ⟨rfl, rfl⟩
  | cons _ placed _ _ ih =>
    obtain ⟨values, -, -, rfl⟩ := placeData_eq_ok_iff.mp placed
    exact ⟨⟨rfl, ih.1⟩, by rw [List.map_cons, ih.2]⟩

/-- The layout that the walks over the two segments give. -/
def ofWalks (config : Config) (data : Walked PlacedData) (code : Walked Int) : Layout :=
  let base := config.instructionBase.getD data.next
  { symbols := code.symbols
    data := data.placed
    instructionAddresses := code.placed
    dataBase := config.dataBase
    dataSize := data.next - config.dataBase
    instructionBase := base
    instructionSize := code.next - base
    wordBits := config.wordSize.bits
    warnings := layoutWarnings config data.next base code.next }

variable {program : Program} {config : Config} {layout : Layout}

/-- A layout is made by a walk over the data and one over the instructions, on one table. -/
theorem build_eq_ok_iff :
    build program config = .ok layout ↔
      ∃ data code,
        Walk config.wordSize .data (placeData config.wordSize) 0 config.dataBase {} program.data
          data ∧
        Walk config.wordSize .instructions (placeInstruction config.wordSize) 0
          (config.instructionBase.getD data.next) data.symbols program.instructions code ∧
        layout = ofWalks config data code := by
  simp only [← walk_eq_ok_iff, build]
  constructor
  · intro built
    split at built
    · cases built
    · rename_i data first
      split at built
      · cases built
      · rename_i code second
        cases built
        exact ⟨data, code, first, second, rfl⟩
  · rintro ⟨data, code, first, second, rfl⟩
    simp only [first, second, ofWalks]

/-- A layout fails in the walk over the data, or after it in the walk over the instructions. -/
theorem build_eq_error {stop : Stop} (failed : build program config = .error stop) :
    walk config.wordSize .data (placeData config.wordSize) 0 config.dataBase {} program.data =
        .error stop ∨
      ∃ data,
        Walk config.wordSize .data (placeData config.wordSize) 0 config.dataBase {} program.data
          data ∧
        walk config.wordSize .instructions (placeInstruction config.wordSize) 0
          (config.instructionBase.getD data.next) data.symbols program.instructions =
          .error stop := by
  simp only [← walk_eq_ok_iff]
  simp only [build] at failed
  split at failed
  · rename_i first
    cases failed
    exact .inl first
  · rename_i first
    split at failed
    · rename_i second
      cases failed
      exact .inr ⟨_, first, second⟩
    · cases failed

/-! ## The table of a layout -/

theorem build_lengths (built : build program config = .ok layout) :
    layout.data.length = program.data.length ∧
      layout.instructionAddresses.length = program.instructions.length := by
  obtain ⟨data, code, dataSteps, codeSteps, rfl⟩ := build_eq_ok_iff.mp built
  exact ⟨dataSteps.length_placed, codeSteps.length_placed⟩

/-- The placed data are the data statements in order. -/
theorem build_data_labels (built : build program config = .ok layout) :
    layout.data.map (fun d => (⟨d.element, d.label⟩ : Statement Element)) = program.data := by
  obtain ⟨data, code, steps, -, rfl⟩ := build_eq_ok_iff.mp built
  exact steps.tiles.2

/-- The table holds the labels of both segments at the addresses of their statements; no use is
noted yet. -/
theorem build_symbols (built : build program config = .ok layout) :
    layout.symbols =
      { symbols := labelSymbols .data 0 program.data (layout.data.map PlacedData.address) ++
          labelSymbols .instructions 0 program.instructions layout.instructionAddresses } := by
  obtain ⟨data, code, dataSteps, codeSteps, rfl⟩ := build_eq_ok_iff.mp built
  have first := dataSteps.symbols_eq placeData_records
  have second := codeSteps.symbols_eq placeInstruction_records
  rw [List.map_id, first] at second
  simpa [ofWalks] using second

theorem build_distinct (built : build program config = .ok layout) :
    layout.symbols.Distinct := by
  obtain ⟨data, code, dataSteps, codeSteps, rfl⟩ := build_eq_ok_iff.mp built
  exact codeSteps.distinct (dataSteps.distinct List.nodup_nil)

/-- The names of the table are the labels of the program. -/
theorem build_names (built : build program config = .ok layout) :
    layout.symbols.names = program.labels := by
  obtain ⟨dataLength, codeLength⟩ := build_lengths built
  rw [SymbolTable.names, build_symbols built, List.map_append,
    map_name_labelSymbols (by simpa using dataLength), map_name_labelSymbols codeLength,
    Program.labels]

end Assembler.Layout
