import Assembler.Proofs.AddressSpace
import Assembler.Proofs.Quantities

/-!
# The first error of a layout

An `Entry` is what the first pass sees of a statement: its label, the quantities that have to fit,
and the bytes that it takes up from an address on, which is the base of the segment plus the sizes
before it. Entries are `Sound` if the labels are distinct, the quantities fit, and all bytes lie in
the address space. A program has a layout exactly if its entries are sound. Otherwise the error is
that of the first entry that makes them unsound, and of the checks of that entry the first that
fails: the label, then the quantities in order, then the end of the statement.
-/

namespace Assembler

/-! ## Entries -/

/-- What the first pass sees of a statement. -/
structure Entry where
  location : Location
  label : Option Text
  address : Int
  size : Int
  /-- The numbers that have to fit, in the order in which they are looked at. -/
  quantities : List Quantity
  deriving DecidableEq, Repr

/-- The last byte of a statement; one without bytes counts as one byte. -/
def Entry.last (entry : Entry) : Int := entry.address + max entry.size 1 - 1

/-- How the statements of a segment are measured: the quantities of a body, and its size in bytes if
they fit. -/
structure Gauge (α : Type) where
  quantities : α → List Quantity
  size : α → Int

namespace Gauge

variable {α : Type} (g : Gauge α) {segment : Segment} {index : Nat} {address : Int}

/-- The entry of a statement at an address. -/
def entry (location : Location) (address : Int) (statement : Statement α) : Entry :=
  ⟨location, statement.label, address, g.size statement.body, g.quantities statement.body⟩

/-- The bytes of some statements. -/
def total (statements : List (Statement α)) : Int :=
  (statements.map fun statement => g.size statement.body).sum

/-- The entries of statements that are numbered from an index on. Each lies at a base plus the sizes
of the statements before it. -/
def entries (segment : Segment) (index : Nat) (base : Int) (statements : List (Statement α)) :
    List Entry :=
  statements.mapIdx fun k statement =>
    g.entry ⟨segment, (index + k : Nat)⟩ (base + g.total (statements.take k)) statement

theorem total_cons (statement : Statement α) (rest : List (Statement α)) :
    g.total (statement :: rest) = g.size statement.body + g.total rest := by
  simp [total]

theorem entries_cons (statement : Statement α) (rest : List (Statement α)) :
    g.entries segment index address (statement :: rest) =
      g.entry ⟨segment, index⟩ address statement ::
        g.entries segment (index + 1) (address + g.size statement.body) rest := by
  simp only [entries, List.mapIdx_cons, List.take_zero, List.take_succ_cons, total_cons]
  congr 1
  · simp [total]
  · congr 1
    funext k later
    rw [Nat.add_assoc, Nat.add_comm 1 k, add_assoc address]

theorem entries_append (before later : List (Statement α)) :
    g.entries segment index address (before ++ later) =
      g.entries segment index address before ++
        g.entries segment (index + before.length) (address + g.total before) later := by
  induction before generalizing index address with
  | nil => simp [entries, total]
  | cons statement rest ih =>
    have shifted : index + 1 + rest.length = index + (rest.length + 1) := by omega
    rw [List.cons_append, entries_cons, entries_cons, ih, total_cons, ← add_assoc, shifted]
    rfl

end Gauge

/-! ## Sound entries -/

/-- Statements that have a place in the address space. -/
structure Sound (w : WordSize) (entries : List Entry) : Prop where
  labels : (entries.filterMap Entry.label).Nodup
  quantities : ∀ entry ∈ entries, ∀ q ∈ entry.quantities, q.fits = true
  ends : ∀ entry ∈ entries, entry.last ≤ 2 ^ w.bits - 1

/-- The label of an entry is none of those before it. -/
def Entry.Fresh (before : List Entry) (entry : Entry) : Prop :=
  ∀ name, entry.label = some name → name ∉ before.filterMap Entry.label

/-- The error with which an entry is refused after some others. The checks come in this order. -/
inductive Entry.Refused (w : WordSize) (before : List Entry) (entry : Entry) : Error → Prop
  | duplicate {name : Text} {first : Entry} (label : entry.label = some name)
      (earlier : first ∈ before) (same : first.label = some name) :
    Refused w before entry
      (.located entry.location (.duplicate name (some first.location)))
  | misfit {q : Quantity} (fresh : entry.Fresh before)
      (found : Quantity.firstMisfit? entry.quantities = some q) :
    Refused w before entry (q.misfit entry.location)
  | outside (fresh : entry.Fresh before) (fit : ∀ q ∈ entry.quantities, q.fits = true)
      (beyond : 2 ^ w.bits - 1 < entry.last) :
    Refused w before entry
      (.located entry.location (.overflow
        ⟨some ("0x" ++ Text.hex entry.last), w.bits, .unsigned, Bits.unsignedRange w.bits⟩))

variable {w : WordSize} {before after : List Entry} {entry : Entry}

theorem Sound.nil : Sound w [] := ⟨List.nodup_nil, by simp, by simp⟩

/-- An entry that passes all checks is sound after the others. -/
theorem Sound.snoc (sound : Sound w before) (fresh : entry.Fresh before)
    (fit : ∀ q ∈ entry.quantities, q.fits = true) (ends : entry.last ≤ 2 ^ w.bits - 1) :
    Sound w (before ++ [entry]) := by
  refine ⟨?_, ?_, ?_⟩
  · rw [List.filterMap_append, List.nodup_append]
    refine ⟨sound.labels, ?_, ?_⟩
    · cases label : entry.label <;> simp [label]
    · intro name earlier other own
      have label : entry.label = some other := by
        cases label : entry.label <;> simp_all
      intro same
      subst same
      exact fresh name label earlier
  · intro other member
    rcases List.mem_append.mp member with earlier | own
    · exact sound.quantities other earlier
    · rw [List.mem_singleton.mp own]
      exact fit
  · intro other member
    rcases List.mem_append.mp member with earlier | own
    · exact sound.ends other earlier
    · rw [List.mem_singleton.mp own]
      exact ends

/-- An entry that is refused makes the entries unsound, whatever comes after it. -/
theorem Entry.Refused.not_sound {e : Error} (refused : entry.Refused w before e) :
    ¬ Sound w (before ++ entry :: after) := by
  intro sound
  have member : entry ∈ before ++ entry :: after := by simp
  cases refused with
  | @duplicate name first label earlier same =>
    have distinct := sound.labels
    rw [List.filterMap_append, List.filterMap_cons_some label, List.nodup_append] at distinct
    have inBefore : name ∈ before.filterMap Entry.label :=
      List.mem_filterMap.mpr ⟨first, earlier, same⟩
    exact distinct.2.2 name inBefore name List.mem_cons_self rfl
  | @misfit q fresh found =>
    obtain ⟨own, outside⟩ := Quantity.mem_of_firstMisfit? found
    rw [sound.quantities entry member q own] at outside
    cases outside
  | outside fresh fit beyond =>
    have ends := sound.ends entry member
    omega

/-! ## Tables of entries -/

/-- The symbol of an entry with a label. -/
def Entry.symbol? (entry : Entry) : Option Symbol :=
  entry.label.map fun name => ⟨name, entry.address, entry.location.segment, entry.location⟩

/-- A table that can be added to, with the labels of some entries. -/
structure SymbolTable.Lists (t : SymbolTable) (entries : List Entry) : Prop where
  unfrozen : t.frozen = false
  symbols : t.symbols = entries.filterMap Entry.symbol?

namespace SymbolTable.Lists

variable {t defined : SymbolTable}

theorem nil : Lists {} [] := ⟨rfl, rfl⟩

theorem names (lists : t.Lists before) : t.names = before.filterMap Entry.label := by
  rw [SymbolTable.names, lists.symbols, List.map_filterMap]
  congr
  funext entry
  unfold Entry.symbol?
  cases entry.label <;> rfl

/-- Entering a label that is new adds its entry. -/
theorem define (lists : t.Lists before) (entry : Entry)
    (entered : Layout.defineLabel t entry.label entry.address entry.location = .ok defined) :
    entry.Fresh before ∧ defined.Lists (before ++ [entry]) := by
  obtain ⟨rfl, -⟩ := Layout.defineLabel_eq_ok entered
  refine ⟨?_, lists.unfrozen, ?_⟩
  · intro name label member
    rw [label] at entered
    obtain ⟨-, absent, -⟩ := SymbolTable.define_eq_ok_iff.mp entered
    rw [lists.names] at absent
    exact absent member
  · rw [List.filterMap_append, ← lists.symbols]
    unfold Layout.labelSymbol
    cases label : entry.label <;> simp [Entry.symbol?, label]

/-- Entering a label fails only if an entry has it already, and the error names that entry. -/
theorem refused (lists : t.Lists before) (entry : Entry) {e : Error}
    (failed : Layout.defineLabel t entry.label entry.address entry.location = .error e) :
    entry.Refused w before e := by
  cases label : entry.label with
  | none =>
    rw [label] at failed
    cases failed
  | some name =>
    rw [label] at failed
    obtain ⟨symbol, found, rfl⟩ := (SymbolTable.define_eq_error_iff lists.unfrozen).mp failed
    obtain ⟨member, named⟩ := SymbolTable.mem_of_find? found
    rw [lists.symbols] at member
    obtain ⟨first, earlier, own⟩ := List.mem_filterMap.mp member
    obtain ⟨firstName, same, rfl⟩ := Option.map_eq_some_iff.mp own
    have again : first.label = some name := by rw [same, ← named]
    exact .duplicate label earlier again

end SymbolTable.Lists

/-! ## Walks -/

namespace Layout

variable {α β : Type} {segment : Segment} {place : Placing α β} {g : Gauge α}

/-- A measure tells how a body is placed: it is refused for the first quantity that does not fit,
and otherwise it takes up bytes. -/
structure Gauges (g : Gauge α) (place : Placing α β) (body : α) : Prop where
  accepts : (∀ q ∈ g.quantities body, q.fits = true) → 0 ≤ g.size body ∧
    ∀ address location label, ∃ record,
      place address location ⟨body, label⟩ = .ok (g.size body, record)
  refuses : ∀ q, Quantity.firstMisfit? (g.quantities body) = some q →
    ∀ address location label, place address location ⟨body, label⟩ = .error (q.misfit location)

theorem Gauges.of_ok {body : α} (gauges : Gauges g place body) {address size : Int}
    {location : Location} {label : Option Text} {record : β}
    (placed : place address location ⟨body, label⟩ = .ok (size, record)) :
    (∀ q ∈ g.quantities body, q.fits = true) ∧ size = g.size body ∧ 0 ≤ size := by
  cases found : Quantity.firstMisfit? (g.quantities body) with
  | none =>
    have fit := Quantity.firstMisfit?_eq_none_iff.mp found
    obtain ⟨nonneg, places⟩ := gauges.accepts fit
    obtain ⟨other, again⟩ := places address location label
    rw [placed] at again
    cases again
    exact ⟨fit, rfl, nonneg⟩
  | some q =>
    rw [gauges.refuses q found] at placed
    cases placed

theorem Gauges.of_error {body : α} (gauges : Gauges g place body) {address : Int}
    {location : Location} {label : Option Text} {e : Error}
    (failed : place address location ⟨body, label⟩ = .error e) :
    ∃ q, Quantity.firstMisfit? (g.quantities body) = some q ∧ e = q.misfit location := by
  cases found : Quantity.firstMisfit? (g.quantities body) with
  | none =>
    have fit := Quantity.firstMisfit?_eq_none_iff.mp found
    obtain ⟨other, placed⟩ := (gauges.accepts fit).2 address location label
    rw [placed] at failed
    cases failed
  | some q =>
    rw [gauges.refuses q found] at failed
    cases failed
    exact ⟨q, rfl, rfl⟩

variable {index : Nat} {address : Int} {symbols : SymbolTable} {statements : List (Statement α)}

/-- A walk that succeeds leaves sound entries, listed in the table. -/
theorem Walk.sound {walked : Walked β}
    (steps : Walk w segment place index address symbols statements walked)
    (gauges : ∀ statement ∈ statements, Gauges g place statement.body) (start : 0 ≤ address)
    (lists : symbols.Lists before) (sound : Sound w before) :
    Sound w (before ++ g.entries segment index address statements) ∧
      walked.symbols.Lists (before ++ g.entries segment index address statements) ∧
      0 ≤ walked.next ∧ walked.next = address + g.total statements := by
  induction steps generalizing before with
  | nil => simpa [Gauge.entries, Gauge.total] using ⟨sound, lists, start⟩
  | @cons index address size symbols defined statement rest record walked label placed ends
      others ih =>
    rw [List.forall_mem_cons] at gauges
    obtain ⟨fit, rfl, nonneg⟩ := gauges.1.of_ok placed
    obtain ⟨fresh, listed⟩ := lists.define (g.entry ⟨segment, index⟩ address statement) label
    have inSpace := (WordSize.holds_iff.mp ends).2
    rw [Bits.patterns_eq] at inSpace
    have last : (g.entry ⟨segment, index⟩ address statement).last ≤ 2 ^ w.bits - 1 := by
      simp only [Entry.last, Gauge.entry]
      omega
    have grown := sound.snoc fresh fit last
    have later := ih gauges.2 (by omega) listed grown
    rw [Gauge.entries_cons, Gauge.total_cons, ← add_assoc]
    simpa using later

/-- Where a walk stops, the entry of the statement is refused. -/
theorem StopsAt.refused {location : Location} {statement : Statement α} {stop : Stop}
    (stops : StopsAt w place location address symbols statement stop)
    (gauges : Gauges g place statement.body) (start : 0 ≤ address)
    (lists : symbols.Lists before) :
    (g.entry location address statement).Refused w before stop.error := by
  cases stops with
  | label error => exact lists.refused (g.entry location address statement) error
  | place label error =>
    obtain ⟨fresh, -⟩ := lists.define (g.entry location address statement) label
    obtain ⟨q, found, rfl⟩ := gauges.of_error error
    exact .misfit fresh found
  | ends label placed error =>
    obtain ⟨fresh, -⟩ := lists.define (g.entry location address statement) label
    obtain ⟨fit, rfl, nonneg⟩ := gauges.of_ok placed
    obtain ⟨outside, rfl⟩ := checkEnd_eq_error_iff.mp error
    refine .outside fresh fit ?_
    -- The last byte is not below the address space, so it lies above it.
    by_contra inside
    have holds : w.holds (address + max (g.size statement.body) 1 - 1) = true := by
      rw [WordSize.holds_iff, Bits.patterns_eq]
      simp only [Entry.last, Gauge.entry] at inside
      omega
    rw [holds] at outside
    cases outside

/-- A walk that fails is refused at the first entry that makes the entries unsound. -/
theorem walk_refused {stop : Stop}
    (failed : walk w segment place index address symbols statements = .error stop)
    (gauges : ∀ statement ∈ statements, Gauges g place statement.body) (start : 0 ≤ address)
    (lists : symbols.Lists before) (sound : Sound w before) :
    ∃ earlier entry later,
      g.entries segment index address statements = earlier ++ entry :: later ∧
        Sound w (before ++ earlier) ∧ entry.Refused w (before ++ earlier) stop.error := by
  obtain ⟨passed, statement, rest, walked, rfl, steps, stops⟩ := walk_eq_error failed
  simp only [List.forall_mem_append, List.forall_mem_cons] at gauges
  obtain ⟨first, own, -⟩ := gauges
  obtain ⟨sound, lists, inSpace, next⟩ := steps.sound first start lists sound
  have refused := stops.refused own inSpace lists
  rw [Gauge.entries_append, Gauge.entries_cons, ← next]
  exact ⟨_, _, _, rfl, sound, refused⟩

end Layout

/-! ## The two segments -/

/-- A value of a list, which may be signed or unsigned. -/
def ListKind.quantity (kind : ListKind) (value : Operand) : Quantity :=
  ⟨value, 8 * kind.width, .either⟩

namespace Element

/-- The size of an area and the values of a list are numbers. The magnitudes of literals among them
are absolute values. -/
def Typed : Element → Prop
  | .block size => size.Numeric
  | .list _ values => ∀ value ∈ values, value.Numeric

/-- How data are measured. -/
def gauge (w : WordSize) : Gauge Element where
  quantities
    | .block size => [⟨size, w.bits, .unsigned⟩]
    | .list kind values => values.map kind.quantity
  size
    | .block size => size.amount
    | .list kind values => kind.width * values.length

variable {kind : ListKind} {values : List Operand}

/-- Values that fit have patterns. -/
theorem valuesIn_accepts (typed : ∀ value ∈ values, value.Numeric)
    (fit : ∀ q ∈ values.map kind.quantity, q.fits = true) (location : Option Location) :
    ∃ patterns, valuesIn kind location values = .ok patterns := by
  induction values with
  | nil => exact ⟨[], rfl⟩
  | cons value rest ih =>
    rw [List.map_cons, List.forall_mem_cons] at fit
    rw [List.forall_mem_cons] at typed
    obtain ⟨pattern, first⟩ := typed.1.valueIn_accepts fit.1 location
    obtain ⟨patterns, others⟩ := ih typed.2 fit.2
    exact ⟨pattern :: patterns, by simp [valuesIn, first, others]⟩

/-- Values are refused for the first that does not fit. -/
theorem valuesIn_refuses (typed : ∀ value ∈ values, value.Numeric) {q : Quantity}
    (found : Quantity.firstMisfit? (values.map kind.quantity) = some q)
    (location : Option Location) :
    valuesIn kind location values = .error (q.misfit location) := by
  induction values with
  | nil => cases found
  | cons value rest ih =>
    rw [List.forall_mem_cons] at typed
    rw [List.map_cons, Quantity.firstMisfit?_cons] at found
    cases fits : (kind.quantity value).fits with
    | false =>
      rw [fits] at found
      cases found
      have failed : valueIn kind location value = .error ((kind.quantity value).misfit location) :=
        typed.1.valueIn_refuses_iff.mpr ⟨fits, rfl⟩
      simp [valuesIn, failed]
    | true =>
      rw [if_pos fits] at found
      obtain ⟨pattern, first⟩ := typed.1.valueIn_accepts fits location
      simp [valuesIn, first, ih typed.2 found]

theorem Typed.gauges {element : Element} (typed : element.Typed) (w : WordSize) :
    Layout.Gauges (gauge w) (Layout.placeData w) element := by
  cases element with
  | block size =>
    have numeric : size.Numeric := typed
    have single : Signedness.unsigned ≠ .either := by decide
    refine ⟨?_, ?_⟩
    · intro fit
      have fits := List.forall_mem_singleton.mp fit
      refine ⟨Quantity.amount_nonneg fits, ?_⟩
      intro address location label
      obtain ⟨value, taken⟩ := numeric.fit_accepts w.fieldWidth single fits location
      have same : value = size.amount := Operand.fit_unsigned w.fieldWidth taken
      rw [same] at taken
      exact ⟨_, Layout.placeData_eq_ok_iff.mpr ⟨[], taken, rfl, rfl⟩⟩
    · intro q found address location label
      obtain ⟨own, misfit⟩ := Quantity.mem_of_firstMisfit? found
      obtain rfl := List.mem_singleton.mp own
      have refused : size.fit w.bits .unsigned location = .error (Quantity.misfit _ location) :=
        (numeric.fit_refuses_iff w.fieldWidth single).mpr ⟨misfit, rfl⟩
      simp only [Layout.placeData, Element.size, refused]
  | list kind values =>
    refine ⟨?_, ?_⟩
    · intro fit
      refine ⟨mul_nonneg (Int.natCast_nonneg _) (Int.natCast_nonneg _), ?_⟩
      intro address location label
      obtain ⟨patterns, valued⟩ := valuesIn_accepts typed fit location
      exact ⟨_, Layout.placeData_eq_ok_iff.mpr ⟨patterns, rfl, valued, rfl⟩⟩
    · intro q found address location label
      have refused := valuesIn_refuses typed found location
      simp only [Layout.placeData, Element.size, Element.values, refused]

end Element

namespace Instruction

/-- What has to be known of an instruction to count its words. -/
def Typed : Instruction → Prop
  | .form f => f.Typed
  | .foreign _ => True

/-- How instructions are measured; what is no instruction counts as one word. -/
def gauge (w : WordSize) : Gauge Instruction where
  quantities
    | .form f => f.quantities w
    | .foreign _ => []
  size
    | .form f => f.words w * w.bytes
    | .foreign _ => w.bytes

theorem Typed.gauges {i : Instruction} (typed : i.Typed) (w : WordSize) :
    Layout.Gauges (gauge w) (Layout.placeInstruction w) i := by
  cases i with
  | foreign thing =>
    refine ⟨?_, ?_⟩
    · intro fit
      refine ⟨w.bytes_pos.le, ?_⟩
      intro address location label
      refine ⟨address, Layout.placeInstruction_eq_ok_iff.mpr ⟨1, rfl, ?_, rfl⟩⟩
      simp [gauge]
    · intro q found
      cases found
  | form f =>
    have typed : f.Typed := typed
    refine ⟨?_, ?_⟩
    · intro fit
      refine ⟨mul_nonneg (Int.natCast_nonneg _) w.bytes_pos.le, ?_⟩
      intro address location label
      have counted := typed.wordCount_accepts fit location
      exact ⟨address, Layout.placeInstruction_eq_ok_iff.mpr ⟨_, counted, rfl, rfl⟩⟩
    · intro q found address location label
      obtain ⟨member, misfit⟩ := Quantity.mem_of_firstMisfit? found
      have refused : f.wordCount w.bits location = .error (q.misfit location) :=
        typed.wordCount_refuses_iff.mpr ⟨q, member, misfit, rfl⟩
      exact Outcome.map_eq_error_iff.mpr refused

end Instruction

/-! ## Programs -/

/-- Numbers stand where a program needs them, and the magnitudes of the literals among them are
absolute values. -/
structure Program.Typed (program : Program) : Prop where
  data : ∀ statement ∈ program.data, statement.body.Typed
  instructions : ∀ statement ∈ program.instructions, statement.body.Typed

/-- The entries of a program, data before instructions. Without a base of their own, the
instructions follow the data. -/
def Program.entries (program : Program) (config : Config) : List Entry :=
  let data := Element.gauge config.wordSize
  let code := Instruction.gauge config.wordSize
  let base := config.instructionBase.getD (config.dataBase + data.total program.data)
  data.entries .data 0 config.dataBase program.data ++
    code.entries .instructions 0 base program.instructions

namespace Layout

variable {program : Program} {config : Config}

/-- What the walk over the data hands on to the walk over the instructions. -/
theorem data_sound (typed : program.Typed) {data : Walked PlacedData}
    (steps : Walk config.wordSize .data (placeData config.wordSize) 0 config.dataBase {}
      program.data data) :
    Sound config.wordSize
        ((Element.gauge config.wordSize).entries .data 0 config.dataBase program.data) ∧
      data.symbols.Lists
        ((Element.gauge config.wordSize).entries .data 0 config.dataBase program.data) ∧
      0 ≤ data.next ∧
      data.next = config.dataBase + (Element.gauge config.wordSize).total program.data :=
  steps.sound (fun statement member => (typed.data statement member).gauges config.wordSize)
    config.dataBase_nonneg .nil .nil

/-- A layout leaves sound entries. -/
theorem sound_of_build (typed : program.Typed) {layout : Layout}
    (built : build program config = .ok layout) :
    Sound config.wordSize (program.entries config) := by
  obtain ⟨data, code, dataSteps, codeSteps, -⟩ := build_eq_ok_iff.mp built
  obtain ⟨sound, lists, nonneg, next⟩ := data_sound typed dataSteps
  have gauges := fun statement member =>
    (typed.instructions statement member).gauges config.wordSize
  have whole := (codeSteps.sound gauges (config.instructionBase_nonneg nonneg) lists sound).1
  rwa [next] at whole

/-- A layout that fails is refused at the first entry that makes the entries unsound. -/
theorem refused_of_build (typed : program.Typed) {stop : Stop}
    (failed : build program config = .error stop) :
    ∃ before entry after, program.entries config = before ++ entry :: after ∧
      Sound config.wordSize before ∧ entry.Refused config.wordSize before stop.error := by
  rcases build_eq_error failed with inData | ⟨data, dataSteps, inCode⟩
  · have gauges := fun statement member => (typed.data statement member).gauges config.wordSize
    obtain ⟨before, entry, later, split, sound, refused⟩ :=
      walk_refused inData gauges config.dataBase_nonneg .nil .nil
    rw [Program.entries, split, List.append_assoc, List.cons_append]
    exact ⟨before, entry, _, rfl, sound, refused⟩
  · obtain ⟨sound, lists, nonneg, next⟩ := data_sound typed dataSteps
    have gauges := fun statement member =>
      (typed.instructions statement member).gauges config.wordSize
    obtain ⟨before, entry, later, split, sound, refused⟩ :=
      walk_refused inCode gauges (config.instructionBase_nonneg nonneg) lists sound
    rw [next] at split
    rw [Program.entries, split, ← List.append_assoc]
    exact ⟨_, entry, later, rfl, sound, refused⟩

/-- A program has a layout exactly if its entries are sound. Otherwise the layout fails at the first
entry that makes them unsound, with the error of the first check of that entry that fails. -/
theorem build_firstError (typed : program.Typed) (config : Config) :
    ((∃ layout, build program config = .ok layout) ↔
        Sound config.wordSize (program.entries config)) ∧
      ∀ stop, build program config = .error stop →
        ∃ before entry after, program.entries config = before ++ entry :: after ∧
          Sound config.wordSize before ∧
          entry.Refused config.wordSize before stop.error := by
  refine ⟨⟨?_, ?_⟩, fun stop failed => refused_of_build typed failed⟩
  · rintro ⟨layout, built⟩
    exact sound_of_build typed built
  · intro sound
    rcases Outcome.isOk_or_isError (build program config) with built | ⟨stop, failed⟩
    · exact built
    · obtain ⟨before, entry, after, split, -, refused⟩ := refused_of_build typed failed
      rw [split] at sound
      exact absurd sound refused.not_sound

end Layout

/-- The last statement defines a label again, and the word that it loads does not fit. -/
def Program.doubled : Program :=
  { data := [⟨.block (.numeral ⟨.dec, 3, false, "3"⟩), some "a"⟩]
    instructions :=
      [⟨.form (.push .v0), none⟩,
        ⟨.form (.loadWord .v0 (.numeral ⟨.hex, 0x1FFFFFFFF, false, "0x1FFFFFFFF"⟩)), some "a"⟩] }

/-- The label is looked at first, and its first definition is named. -/
theorem Layout.build_firstError_doubled :
    Program.doubled.Typed ∧ ∃ stop, build .doubled .standard = .error stop ∧
      stop.error = .located (some ⟨.instructions, 1⟩) (.duplicate "a" (some ⟨.data, 0⟩)) ∧
      (Diagnostic.mk (.duplicate "a" (some ⟨.data, 0⟩)) (some ⟨.instructions, 1⟩)).report.hint =
        some ("'a' was first defined at .data[0]" : Text) ∧
      ∃ before entry after, Program.doubled.entries .standard = before ++ entry :: after ∧
        Sound .bits32 before ∧ entry.Refused .bits32 before stop.error := by
  have typed : Program.doubled.Typed := by
    constructor <;> simp [Program.doubled, Element.Typed, Instruction.Typed, Form.Typed,
      Operand.Numeric, Literal.Absolute]
  exact ⟨typed, _, rfl, rfl, by decide +kernel, (build_firstError typed .standard).2 _ rfl⟩

/-- A program that reserves an area of a size that is too long to be written. -/
def Program.oversized : Program := { data := [⟨.block (.numeral .long), none⟩] }

/-- The size does not fit, and the error is no overflow. -/
theorem Layout.not_overflow_of_long_area :
    Program.oversized.Typed ∧
      Quantity.fits ⟨.numeral .long, WordSize.bits32.bits, .unsigned⟩ = false ∧
      ∃ stop, build .oversized .standard = .error stop ∧
        ∀ location o, stop.error ≠ .located location (.overflow o) := by
  have sized : (Element.block (.numeral .long)).Typed := Literal.long_numeric
  have typed : Program.oversized.Typed := by
    constructor <;> simp [Program.oversized, sized]
  have outside := Quantity.not_fits_of_unspelled Literal.long_numeric Literal.long_unspelled
    (WordSize.fieldWidth .bits32) .unsigned
  have found : Quantity.firstMisfit? ((Element.gauge .bits32).quantities
      (.block (.numeral .long))) = some ⟨.numeral .long, WordSize.bits32.bits, .unsigned⟩ := by
    rw [Element.gauge, Quantity.firstMisfit?_cons, outside]
    rfl
  have refused : placeData .bits32 0 ⟨.data, (0 : Nat)⟩ ⟨.block (.numeral .long), none⟩ =
      .error (.fault .numberTooLong) := by
    rw [(sized.gauges .bits32).refuses _ found,
      Quantity.misfit_of_unspelled Literal.long_unspelled]
  have stops : walk .bits32 .data (placeData .bits32) 0 0 {} Program.oversized.data =
      .error ⟨.fault .numberTooLong, {}⟩ := by
    simp only [Program.oversized, walk, defineLabel, refused]
  refine ⟨typed, outside, ⟨.fault .numberTooLong, {}⟩, ?_, ?_⟩
  · simp only [build, Config.standard, stops]
  · intro location o same
    cases same

end Assembler
