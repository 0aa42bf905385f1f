import Assembler.Proofs.AddressSpace

/-!
# Layouts at other places

No size depends on an address. So two layouts of one program for the same word size differ by one
distance for each segment: data elements and data labels by the distance of the data bases,
instructions and their labels by the distance of the instruction bases.

Nor does a lower place ask for more room than a higher one. A walk that succeeds from some address
on also succeeds from every lower address that is not negative.
-/

namespace Assembler

/-! ## Moved items -/

/-- A symbol, moved with its segment. -/
def Symbol.moved (move : Segment → Int) (s : Symbol) : Symbol :=
  { s with address := s.address + move s.segment }

/-- A data element, moved by a distance. -/
def PlacedData.moved (distance : Int) (d : PlacedData) : PlacedData :=
  { d with address := d.address + distance }

/-- A table whose symbols are moved with their segments. -/
def SymbolTable.moved (move : Segment → Int) (t : SymbolTable) : SymbolTable :=
  { t with symbols := t.symbols.map (Symbol.moved move) }

namespace SymbolTable

variable {move : Segment → Int} {t : SymbolTable}

/-- Moving a table changes no look-up but for the address that is found. -/
theorem find?_moved (name : Text) :
    (t.moved move).find? name = (t.find? name).map (Symbol.moved move) := by
  unfold find? moved
  rw [List.find?_map]
  rfl

end SymbolTable

namespace Layout

variable {α β : Type} {w : WordSize} {segment : Segment} {place : Placing α β}

/-! ## Walks from two addresses -/

/-- The size of a statement is the same everywhere, and its record moves with its address. -/
def MovesWith (place : Placing α β) (shift : Int → β → β) : Prop :=
  ∀ (distance address : Int) (location : Location) (statement : Statement α),
    place (address + distance) location statement =
      (place address location statement).map fun placed => (placed.1, shift distance placed.2)

theorem placeData_movesWith : MovesWith (placeData w) PlacedData.moved := by
  intro distance address location statement
  unfold placeData
  cases statement.body.size w.bits location with
  | error e => rfl
  | ok size => cases statement.body.values location <;> rfl

theorem placeInstruction_movesWith :
    MovesWith (placeInstruction w) fun distance address => address + distance := by
  intro distance address location statement
  unfold placeInstruction
  cases statement.body.wordCount w.bits location <;> rfl

/-- Two walks over the same statements stay at the distance at which they start. -/
theorem Walk.moved {shift : Int → β → β} (moves : MovesWith place shift) {index : Nat}
    {address distance : Int} {symbols others : SymbolTable} {statements : List (Statement α)}
    {walked again : Walked β}
    (steps : Walk w segment place index address symbols statements walked)
    (second : Walk w segment place index (address + distance) others statements again) :
    again.next = walked.next + distance ∧ again.placed = walked.placed.map (shift distance) := by
  induction steps generalizing others again with
  | nil =>
    cases second
    exact ⟨rfl, rfl⟩
  | @cons index address size symbols defined statement rest record walked label placed ends
      later ih =>
    cases second with
    | @cons _ _ otherSize _ _ _ _ otherRecord _ _ otherPlaced _ otherLater =>
      have same := moves distance address ⟨segment, index⟩ statement
      rw [placed, otherPlaced] at same
      obtain ⟨rfl, rfl⟩ : otherSize = size ∧ otherRecord = shift distance record := by
        simpa [Except.map] using same
      have next : address + distance + otherSize = address + otherSize + distance := by omega
      rw [next] at otherLater
      obtain ⟨atEnd, records⟩ := ih otherLater
      refine ⟨atEnd, ?_⟩
      rw [records, List.map_cons]

theorem labelSymbols_moved (move : Segment → Int) (index : Nat) (statements : List (Statement α))
    (addresses : List Int) :
    labelSymbols segment index statements (addresses.map (· + move segment)) =
      (labelSymbols segment index statements addresses).map (Symbol.moved move) := by
  induction statements generalizing index addresses with
  | nil => simp [labelSymbols]
  | cons statement rest ih =>
    cases addresses with
    | nil => simp [labelSymbols]
    | cons address addresses =>
      rw [List.map_cons, labelSymbols, labelSymbols, ih, List.map_append]
      congr 1
      cases label : statement.label with
      | none => simp [labelSymbol]
      | some name => simp [labelSymbol, Symbol.moved]

/-! ## Two layouts of one program -/

variable {program : Program} {config other : Config} {layout again : Layout}

/-- How far each segment of a layout lies from that of another. -/
def displacement (layout again : Layout) : Segment → Int
  | .data => again.dataBase - layout.dataBase
  | .instructions => again.instructionBase - layout.instructionBase

/-- Two layouts that differ in the places of their segments only. -/
structure Displaced (layout again : Layout) : Prop where
  data : again.data = layout.data.map (PlacedData.moved (layout.displacement again .data))
  instructionAddresses : again.instructionAddresses =
    layout.instructionAddresses.map (· + layout.displacement again .instructions)
  symbols : again.symbols = layout.symbols.moved (layout.displacement again)
  dataSize : again.dataSize = layout.dataSize
  instructionSize : again.instructionSize = layout.instructionSize
  wordBits : again.wordBits = layout.wordBits

/-- The table moves with what the layouts place. -/
theorem build_symbols_moved {move : Segment → Int} (built : build program config = .ok layout)
    (rebuilt : build program other = .ok again)
    (data : again.data = layout.data.map (PlacedData.moved (move .data)))
    (code : again.instructionAddresses =
      layout.instructionAddresses.map (· + move .instructions)) :
    again.symbols = layout.symbols.moved move := by
  have addresses : again.data.map PlacedData.address =
      (layout.data.map PlacedData.address).map (· + move .data) := by
    rw [data, List.map_map, List.map_map]
    rfl
  rw [build_symbols rebuilt, build_symbols built, addresses, code, labelSymbols_moved,
    labelSymbols_moved, SymbolTable.moved, List.map_append]

theorem build_displaced (sameWord : config.wordSize = other.wordSize)
    (built : build program config = .ok layout) (rebuilt : build program other = .ok again) :
    layout.Displaced again := by
  obtain ⟨data, code, dataSteps, codeSteps, rfl⟩ := build_eq_ok_iff.mp built
  obtain ⟨data', code', dataSteps', codeSteps', rfl⟩ := build_eq_ok_iff.mp rebuilt
  rw [← sameWord] at dataSteps' codeSteps'
  have dataStart : other.dataBase = config.dataBase + (other.dataBase - config.dataBase) := by
    omega
  rw [dataStart] at dataSteps'
  obtain ⟨dataNext, dataPlaced⟩ := dataSteps.moved placeData_movesWith dataSteps'
  have codeStart : other.instructionBase.getD data'.next =
      config.instructionBase.getD data.next +
        (other.instructionBase.getD data'.next - config.instructionBase.getD data.next) := by
    omega
  rw [codeStart] at codeSteps'
  obtain ⟨codeNext, codePlaced⟩ := codeSteps.moved placeInstruction_movesWith codeSteps'
  refine ⟨dataPlaced, codePlaced, build_symbols_moved built rebuilt dataPlaced codePlaced,
    ?_, ?_, ?_⟩
  · simp only [ofWalks, dataNext]
    omega
  · simp only [ofWalks, codeNext]
    omega
  · simp only [ofWalks, sameWord]

/-! ## Lower places -/

/-- Whether a label can be entered depends on the names of the table only. -/
theorem defineLabel_of_names {symbols others defined : SymbolTable} {label : Option Text}
    {address : Int} {location : Location}
    (entered : defineLabel symbols label address location = .ok defined)
    (names : others.names = symbols.names) (frozen : others.frozen = symbols.frozen)
    (lower : Int) :
    ∃ entry, defineLabel others label lower location = .ok entry ∧
      entry.names = defined.names ∧ entry.frozen = defined.frozen := by
  cases label with
  | none =>
    cases entered
    exact ⟨others, rfl, names, frozen⟩
  | some name =>
    obtain ⟨open_, absent, rfl⟩ := SymbolTable.define_eq_ok_iff.mp entered
    rw [← frozen] at open_
    rw [← names] at absent
    refine ⟨_, SymbolTable.define_eq_ok_iff.mpr ⟨open_, absent, rfl⟩, ?_, frozen⟩
    simp only [SymbolTable.names, List.map_append] at names ⊢
    rw [names]
    rfl

/-- A walk succeeds from a lower address on if it succeeds from a higher one. -/
theorem Walk.lower {shift : Int → β → β} (moves : MovesWith place shift) {index : Nat}
    {address distance : Int} {symbols others : SymbolTable} {statements : List (Statement α)}
    {walked : Walked β}
    (steps : Walk w segment place index (address + distance) symbols statements walked)
    (sizes : ∀ statement ∈ statements, ∀ {address location size record},
      place address location statement = .ok (size, record) → 0 ≤ size)
    (nonneg : 0 ≤ address) (upward : 0 ≤ distance)
    (names : others.names = symbols.names) (frozen : others.frozen = symbols.frozen) :
    ∃ below, Walk w segment place index address others statements below ∧
      below.symbols.names = walked.symbols.names ∧
      below.symbols.frozen = walked.symbols.frozen := by
  generalize start : address + distance = high at steps
  induction steps generalizing address others with
  | nil => exact ⟨_, .nil, names, frozen⟩
  | @cons index high size symbols defined statement rest record walked label placed ends later
      ih =>
    subst start
    have size_nonneg : 0 ≤ size := sizes statement List.mem_cons_self placed
    obtain ⟨entry, entered, sameNames, sameFrozen⟩ :=
      defineLabel_of_names label names frozen address
    have lowerPlaced : ∃ lowerRecord,
        place address ⟨segment, index⟩ statement = .ok (size, lowerRecord) := by
      have same := moves distance address ⟨segment, index⟩ statement
      rw [placed] at same
      obtain ⟨⟨found, lowerRecord⟩, placedBelow, pair⟩ := Outcome.map_eq_ok_iff.mp same.symm
      obtain ⟨rfl, -⟩ := Prod.mk.inj pair
      exact ⟨lowerRecord, placedBelow⟩
    obtain ⟨lowerRecord, placedBelow⟩ := lowerPlaced
    have endsBelow : w.holds (address + max size 1 - 1) = true := by
      have high := (WordSize.holds_iff.mp ends).2
      exact WordSize.holds_iff.mpr ⟨by omega, by omega⟩
    obtain ⟨below, walks, lastNames, lastFrozen⟩ :=
      ih (fun other member => sizes other (List.mem_cons_of_mem _ member))
        (by omega : 0 ≤ address + size) sameNames sameFrozen (by omega)
    exact ⟨_, .cons entered placedBelow endsBelow walks, lastNames, lastFrozen⟩

/-- A program without a configured instruction base has a layout at every lower data base. -/
theorem build_lower (read : program.WasRead) (sameWord : config.wordSize = other.wordSize)
    (follows : config.instructionBase = none) (followsBelow : other.instructionBase = none)
    (below : other.dataBase ≤ config.dataBase) (built : build program config = .ok layout) :
    ∃ lower, build program other = .ok lower := by
  obtain ⟨data, code, dataSteps, codeSteps, -⟩ := build_eq_ok_iff.mp built
  simp only [follows, Option.getD_none] at codeSteps
  have sizes := fun statement member {address location size record} =>
    @data_size_nonneg program config read.absoluteSizes statement member address location size
      record
  rw [sameWord] at dataSteps codeSteps sizes
  have base := (WordSize.holds_iff.mp other.dataBase_holds).1
  have start : config.dataBase = other.dataBase + (config.dataBase - other.dataBase) := by omega
  rw [start] at dataSteps
  obtain ⟨lowerData, lowerSteps, names, frozen⟩ :=
    dataSteps.lower placeData_movesWith sizes base (by omega) rfl rfl
  have next := (lowerSteps.moved placeData_movesWith dataSteps).1
  have nextNonneg : 0 ≤ lowerData.next :=
    base.trans (lowerSteps.le_start placeData_records sizes).1
  rw [next] at codeSteps
  obtain ⟨lowerCode, lowerCodeSteps, -, -⟩ :=
    codeSteps.lower placeInstruction_movesWith (fun _ _ {_ _ _ _} => instruction_size_nonneg)
      nextNonneg (by omega) names frozen
  refine ⟨_, build_eq_ok_iff.mpr ⟨lowerData, lowerCode, lowerSteps, ?_, rfl⟩⟩
  rw [followsBelow]
  exact lowerCodeSteps

end Layout

end Assembler
