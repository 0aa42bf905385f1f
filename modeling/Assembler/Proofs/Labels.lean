import Assembler.Proofs.AddressSpace
import Assembler.Proofs.Assembly
import Mathlib.Algebra.BigOperators.Ring.Finset

/-!
# The table of labels

The table of an image lists the labels of the program and nothing else. A label stands at the base
of its segment plus the sizes of the statements before its own. Both segments are walked by one
function, so their addresses come from one law about walks: what is placed next lies after all that
was measured so far. Hence addresses never fall along the labels of a segment, and along the labels
of instructions they rise.
-/

namespace Assembler

namespace Layout

variable {α β μ : Type} {w : WordSize} {segment : Segment} {place : Placing α β}

/-! ## Sums of sizes -/

/-- The size of a statement comes from a measure that does not depend on its address. -/
def Measures (place : Placing α β) (measure : Location → Statement α → Except Error μ)
    (weight : μ → Int) : Prop :=
  ∀ address location statement size record,
    place address location statement = .ok (size, record) →
      ∃ m, measure location statement = .ok m ∧ size = weight m

/-- A label stands after the sizes of all statements before its own. -/
theorem Walk.sums {start : β → Int} {measure : Location → Statement α → Except Error μ}
    {weight : μ → Int} (records : Records place start) (measures : Measures place measure weight)
    {index : Nat} {address : Int} {symbols : SymbolTable} {statements : List (Statement α)}
    {walked : Walked β} (steps : Walk w segment place index address symbols statements walked) :
    ∃ ms : List μ,
      (∀ k : Nat, statements[k]?.map (measure ⟨segment, (index + k : Nat)⟩) = ms[k]?.map .ok) ∧
      (∀ (k : Nat) s name, statements[k]? = some s → s.label = some name →
        ⟨name, address + ((ms.take k).map weight).sum, segment, ⟨segment, (index + k : Nat)⟩⟩ ∈
          labelSymbols segment index statements (walked.placed.map start)) ∧
      walked.next = address + (ms.map weight).sum := by
  induction steps with
  | nil => exact ⟨[], by simp, by simp, by simp⟩
  | @cons index address size symbols defined statement rest record walked label placed ends
      others ih =>
    obtain ⟨m, measured, rfl⟩ := measures _ _ _ _ _ placed
    obtain ⟨ms, later, labels, next⟩ := ih
    refine ⟨m :: ms, ?_, ?_, ?_⟩
    · intro k
      cases k with
      | zero => simp [measured]
      | succ k =>
        have same := later k
        rw [Nat.add_assoc, Nat.add_comm 1 k] at same
        simpa using same
    · intro k s name source own
      rw [List.map_cons, labelSymbols, records placed, List.mem_append]
      cases k with
      | zero =>
        simp only [List.getElem?_cons_zero, Option.some.injEq] at source
        left
        simp [labelSymbol, source, own]
      | succ k =>
        right
        have member := labels k s name source own
        rw [Nat.add_assoc, Nat.add_comm 1 k] at member
        simpa [add_assoc] using member
    · simp [next, add_assoc]

/-- If every size is at least `least`, every address is at least so much above the one before. -/
theorem Walk.ascending {start : β → Int} (records : Records place start) {least : Int}
    (nonneg : 0 ≤ least) {index : Nat} {address : Int} {symbols : SymbolTable}
    {statements : List (Statement α)} {walked : Walked β}
    (steps : Walk w segment place index address symbols statements walked)
    (sizes : ∀ statement ∈ statements, ∀ {address location size record},
      place address location statement = .ok (size, record) → least ≤ size) :
    (walked.placed.map start).Pairwise fun a b => a + least ≤ b := by
  induction steps with
  | nil => exact .nil
  | @cons index address size symbols defined statement rest record walked label placed ends
      others ih =>
    have later : ∀ other ∈ rest, ∀ {address location size record},
        place address location other = .ok (size, record) → least ≤ size :=
      fun other member => sizes other (List.mem_cons_of_mem _ member)
    have above := (others.le_start records fun other member {_ _ _ _} placed =>
      nonneg.trans (later other member placed)).2
    refine .cons ?_ (ih later)
    intro next member
    obtain ⟨after, inside, rfl⟩ := List.mem_map.mp member
    have size := sizes statement List.mem_cons_self placed
    have start := above after inside
    rw [records placed]
    omega

theorem placeData_measures : Measures (placeData w)
    (fun location statement => statement.body.size w.bits location) id := by
  intro address location statement size record placed
  obtain ⟨values, sized, -, -⟩ := placeData_eq_ok_iff.mp placed
  exact ⟨size, sized, rfl⟩

theorem placeInstruction_measures : Measures (placeInstruction w)
    (fun location statement => statement.body.wordCount w.bits location)
    (fun count => count * w.bytes) := by
  intro address location statement size record placed
  obtain ⟨count, counted, rfl, -⟩ := placeInstruction_eq_ok_iff.mp placed
  exact ⟨count, counted, rfl⟩

/-! ## Symbols in order -/

/-- The addresses of symbols are in the order of the addresses of their statements. -/
theorem labelSymbols_pairwise {R : Int → Int → Prop} {statements : List (Statement α)}
    {addresses : List Int} (ordered : addresses.Pairwise R) (index : Nat) :
    (labelSymbols segment index statements addresses).Pairwise
      fun s t => R s.address t.address := by
  induction statements generalizing index addresses with
  | nil => simp [labelSymbols]
  | cons statement rest ih =>
    cases addresses with
    | nil => simp [labelSymbols]
    | cons address addresses =>
      obtain ⟨first, others⟩ := List.pairwise_cons.mp ordered
      rw [labelSymbols, List.pairwise_append]
      refine ⟨?_, ih others (index + 1), ?_⟩
      · cases statement.label <;> simp [labelSymbol]
      · intro s own t later
        obtain ⟨k, after, -, atAddress, -⟩ := mem_labelSymbols.mp later
        have same : s.address = address := by
          simp only [labelSymbol, Option.mem_toList, Option.map_eq_some_iff] at own
          obtain ⟨name, -, rfl⟩ := own
          rfl
        rw [same]
        exact first t.address (List.mem_of_getElem? atAddress)

theorem filter_labelSymbols {other : Segment} {index : Nat} {statements : List (Statement α)}
    {addresses : List Int} :
    (labelSymbols segment index statements addresses).filter (fun s => s.segment = other) =
      if segment = other then labelSymbols segment index statements addresses else [] := by
  have own : ∀ s ∈ labelSymbols segment index statements addresses, s.segment = segment := by
    intro s member
    obtain ⟨k, statement, -, -, -, inSegment, -⟩ := mem_labelSymbols.mp member
    exact inSegment
  by_cases same : segment = other
  · rw [if_pos same, List.filter_eq_self]
    intro s member
    simp [own s member, same]
  · rw [if_neg same, List.filter_eq_nil_iff]
    intro s member
    simp [own s member, same]

end Layout

/-! ## Sizes -/

theorem Instruction.wordCount_pos {i : Instruction} {bits : Int} {location : Option Location}
    {count : Nat} (counted : i.wordCount bits location = .ok count) : 0 < count := by
  cases i with
  | form f =>
    rcases Form.wordCount_range counted with rfl | rfl <;> decide
  | foreign thing =>
    cases counted
    decide

/-! ## The table of an image -/

/-- The table of a program whose data statements have the given sizes in bytes, and whose
instruction statements have the given sizes in words. -/
structure SymbolTable.IsTableOf (t : SymbolTable) (program : Program) (config : Config)
    (sizes : List Int) (counts : List Nat) : Prop where
  sized : ∀ k : Nat,
    program.data[k]?.map (fun s => s.body.size config.wordSize.bits (some ⟨.data, k⟩)) =
      sizes[k]?.map .ok
  counted : ∀ k : Nat,
    program.instructions[k]?.map
        (fun s => s.body.wordCount config.wordSize.bits (some ⟨.instructions, k⟩)) =
      counts[k]?.map .ok
  names : t.names = program.labels
  distinct : t.names.Nodup
  data : ∀ (k : Nat) s name, program.data[k]? = some s → s.label = some name →
    t.find? name = some ⟨name, config.dataBase + (sizes.take k).sum, .data, ⟨.data, k⟩⟩
  instructions : ∀ (k : Nat) s name, program.instructions[k]? = some s → s.label = some name →
    t.find? name =
      some ⟨name,
        config.instructionBase.getD (config.dataBase + sizes.sum) +
          config.wordSize.bytes * ((counts.take k).sum : Nat),
        .instructions, ⟨.instructions, k⟩⟩
  instructionOrder :
    (t.symbols.filter fun s => s.segment = .instructions).Pairwise
      fun s u => s.address < u.address

/-- The addresses of the data labels do not decrease. -/
def SymbolTable.DataAscends (t : SymbolTable) : Prop :=
  (t.symbols.filter fun s => s.segment = .data).Pairwise fun s u => s.address ≤ u.address

variable {program : Program} {config : Config} {layout : Layout}

/-- The table that the first pass leaves. -/
theorem Layout.build_isTableOf (built : build program config = .ok layout) :
    ∃ sizes counts, layout.symbols.IsTableOf program config sizes counts := by
  have names := build_names built
  have distinct := build_distinct built
  have symbols := build_symbols built
  obtain ⟨data, code, dataSteps, codeSteps, rfl⟩ := build_eq_ok_iff.mp built
  obtain ⟨sizes, sized, dataLabels, dataNext⟩ :=
    dataSteps.sums placeData_records placeData_measures
  obtain ⟨counts, counted, codeLabels, -⟩ :=
    codeSteps.sums placeInstruction_records placeInstruction_measures
  generalize (ofWalks config data code).symbols = table at names distinct symbols ⊢
  simp only [Nat.zero_add, List.map_id, dataNext] at sized counted dataLabels codeLabels
  simp only [ofWalks] at symbols
  refine ⟨sizes, counts, sized, counted, names, distinct, ?_, ?_, ?_⟩
  · intro k s name source label
    have entered : ⟨name, config.dataBase + (sizes.take k).sum, .data, ⟨.data, k⟩⟩ ∈
        table.symbols := by
      rw [symbols]
      exact List.mem_append_left _ (dataLabels k s name source label)
    exact SymbolTable.find?_of_mem distinct entered
  · intro k s name source label
    have words : ((counts.take k).map fun count : Nat =>
        (count : Int) * config.wordSize.bytes).sum =
          config.wordSize.bytes * ((counts.take k).sum : Nat) := by
      rw [List.sum_map_mul_right, mul_comm, Nat.cast_list_sum]
    have entered : ⟨name,
        config.instructionBase.getD (config.dataBase + sizes.sum) +
          config.wordSize.bytes * ((counts.take k).sum : Nat),
        .instructions, ⟨.instructions, k⟩⟩ ∈ table.symbols := by
      rw [symbols, ← words]
      exact List.mem_append_right _ (codeLabels k s name source label)
    exact SymbolTable.find?_of_mem distinct entered
  · have ascending := codeSteps.ascending placeInstruction_records Int.one_nonneg
      fun statement member {_ _ _ _} placed => by
        obtain ⟨count, counted, rfl, -⟩ := placeInstruction_eq_ok_iff.mp placed
        have some := Int.natCast_pos.mpr (Instruction.wordCount_pos counted)
        exact mul_pos some config.wordSize.bytes_pos
    rw [symbols, List.filter_append, filter_labelSymbols, filter_labelSymbols]
    simpa [Int.add_one_le_iff] using labelSymbols_pairwise ascending 0

/-- An area with a negative size would move the labels after it back. -/
theorem Layout.build_dataAscends (absolute : program.AbsoluteSizes)
    (built : build program config = .ok layout) : layout.symbols.DataAscends := by
  have symbols := build_symbols built
  obtain ⟨data, code, dataSteps, -, rfl⟩ := build_eq_ok_iff.mp built
  have ascending := dataSteps.ascending placeData_records le_rfl (data_size_nonneg absolute)
  rw [SymbolTable.DataAscends, symbols, List.filter_append, filter_labelSymbols,
    filter_labelSymbols]
  simpa [ofWalks] using labelSymbols_pairwise ascending 0

/-- What is said about a table depends on its symbols only. -/
theorem SymbolTable.IsTableOf.congr {t u : SymbolTable} {sizes : List Int} {counts : List Nat}
    (table : t.IsTableOf program config sizes counts) (same : u.symbols = t.symbols) :
    u.IsTableOf program config sizes counts := by
  have names : u.names = t.names := by rw [SymbolTable.names, SymbolTable.names, same]
  obtain ⟨sized, counted, listed, distinct, data, instructions, instructionOrder⟩ := table
  refine ⟨sized, counted, names.trans listed, names ▸ distinct, ?_, ?_, ?_⟩
  · simpa only [SymbolTable.find?_congr same] using data
  · simpa only [SymbolTable.find?_congr same] using instructions
  · rwa [same]

/-- The table of an image lists the labels of the program in order, each once, with the segment and
the location of its statement, and at the address that the statements before it leave. So the
addresses of the instruction labels increase, and those of the data labels do not decrease if the
sizes of areas are written with absolute values. -/
theorem assemble_symbols {image : Image} (assembled : assemble program config = .ok image) :
    (∃ sizes counts, image.symbols.IsTableOf program config sizes counts) ∧
      (program.AbsoluteSizes → image.symbols.DataAscends) := by
  obtain ⟨layout, blocks, passes⟩ := assemble_eq_ok_iff.mp assembled
  constructor
  · obtain ⟨sizes, counts, table⟩ := Layout.build_isTableOf passes.built
    exact ⟨sizes, counts, table.congr passes.symbols_eq⟩
  · intro absolute
    rw [SymbolTable.DataAscends, passes.symbols_eq]
    exact Layout.build_dataAscends absolute passes.built

theorem assemble_symbols_sample :
    ∃ image, assemble .sample .sample = .ok image ∧
      image.symbols.addresses =
        ([("table", 0x1FFFE), ("start", 0x20005), ("end", 0x20025)] : List (Text × Int)) ∧
      (∃ sizes counts, image.symbols.IsTableOf .sample .sample sizes counts) ∧
      image.symbols.DataAscends := by
  have assembled : assemble .sample .sample = .ok _ := rfl
  obtain ⟨table, ascends⟩ := assemble_symbols assembled
  exact ⟨_, assembled, by decide +kernel, table, ascends (by decide)⟩

/-- Areas of which the second one is put together with a negative magnitude. -/
def Program.receding : Program :=
  { data :=
      [⟨.block (.numeral ⟨.dec, 8, false, "8"⟩), some "a"⟩,
        ⟨.block (.numeral ⟨.hex, -4, false, []⟩), some "b"⟩,
        ⟨.block (.numeral ⟨.dec, 1, false, "1"⟩), some "c"⟩] }

/-- The third area starts before the end of the first. -/
theorem not_dataAscends_of_negative_magnitude :
    ∃ image, assemble .receding .standard = .ok image ∧
      image.symbols.addresses = ([("a", 0), ("b", 8), ("c", 4)] : List (Text × Int)) ∧
      ¬ image.symbols.DataAscends := by
  refine ⟨_, rfl, by decide +kernel, ?_⟩
  unfold SymbolTable.DataAscends
  decide +kernel

end Assembler
