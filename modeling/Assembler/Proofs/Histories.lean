import Assembler.Proofs.Outcome
import Assembler.Proofs.SymbolTable

/-!
# Histories of a symbol table

The passes share one table. They define names in it, look names up, note uses and freeze it, in any
order and with failures in between. `SymbolTable.after` is the table that some calls leave, and
`SymbolTable.registered` lists what the definitions among them asked for, as far as they succeeded.

A call adds the symbol of a definition that succeeds, and nothing else ever changes the symbols. So
after any history the table lists what was registered, in order, and all that a later call returns
can be read off the history.
-/

namespace Assembler.SymbolTable

/-! ## Histories -/

/-- A call and what came of it. -/
structure Event where
  call : Call
  outcome : Except Error Reply

/-- The symbol that a definition asked for, if it succeeded. -/
def Event.registered? : Event → Option Symbol
  | ⟨.define name address segment location, .ok _⟩ => some ⟨name, address, segment, location⟩
  | _ => none

/-- The table after some calls, whether they succeed or fail. -/
def after (t : SymbolTable) : List Call → SymbolTable
  | [] => t
  | c :: rest => after (t.call c).2 rest

/-- Some calls, each with what comes of it. -/
def history (t : SymbolTable) : List Call → List Event
  | [] => []
  | c :: rest => ⟨c, (t.call c).1⟩ :: history (t.call c).2 rest

/-- The symbols of the definitions that succeed, in the order of the calls. -/
def registered (t : SymbolTable) (calls : List Call) : List Symbol :=
  (t.history calls).filterMap Event.registered?

/-- The call that defines a symbol. -/
def definition (s : Symbol) : Call := .define s.name s.address s.segment s.location

variable {t : SymbolTable} {name : Text} {s : Symbol}

/-! ## One call -/

/-- What a call can come to, and the table that it leaves. -/
inductive Effect (t : SymbolTable) : Call → Except Error Reply × SymbolTable → Prop
  | refused {name : Text} {address : Int} {segment : Segment} {location : Location}
      (frozen : t.frozen = true) :
      Effect t (.define name address segment location)
        (.error (.located location (.frozen name)), t)
  | repeated {name : Text} {address : Int} {segment : Segment} {location : Location}
      {first : Symbol} (unfrozen : t.frozen = false) (found : t.find? name = some first) :
      Effect t (.define name address segment location)
        (.error (.located location (.duplicate name (some first.location))), t)
  | defined {name : Text} {address : Int} {segment : Segment} {location : Location}
      (unfrozen : t.frozen = false) (absent : t.find? name = none) :
      Effect t (.define name address segment location)
        (.ok (.symbol ⟨name, address, segment, location⟩),
          { t with symbols := t.symbols ++ [⟨name, address, segment, location⟩] })
  | lookup (name : Text) (location : Option Location) :
      Effect t (.lookup name location) ((t.lookup name location).map .symbol, t)
  | find (name : Text) : Effect t (.find name) (.ok (.found (t.find? name)), t)
  | note (name : Text) (location : Option Location) :
      Effect t (.note name location) (.ok .done, t.note name location)
  | freeze : Effect t .freeze (.ok .done, t.freeze)

/-- Nothing is done after an error, and the table stays as it is then. -/
theorem run_lift_bind {α : Type} (t : SymbolTable) (outcome : Except Error α)
    (next : α → Access Reply) :
    (liftM outcome >>= next : Access Reply).run.run t =
      match outcome with
      | .ok a => (next a).run.run t
      | .error e => (.error e, t) := by
  cases outcome <;> rfl

/-- Every call has one of the effects. -/
theorem effect_call (t : SymbolTable) (c : Call) : Effect t c (t.call c) := by
  cases c with
  | define name address segment location =>
    have opened : t.call (.define name address segment location) = _ :=
      run_lift_bind t (t.define name address segment location) fun defined => do
        set defined
        return Reply.symbol ⟨name, address, segment, location⟩
    rw [opened]
    cases outcome : t.define name address segment location with
    | ok defined =>
      obtain ⟨unfrozen, absent, rfl⟩ := define_eq_ok_iff.mp outcome
      exact .defined unfrozen (find?_eq_none_iff.mpr absent)
    | error e =>
      cases frozen : t.frozen with
      | true =>
        have refusal : e = .located location (.frozen name) := by
          simpa [define, frozen, eq_comm] using outcome
        rw [refusal]
        exact .refused frozen
      | false =>
        obtain ⟨first, found, rfl⟩ := (define_eq_error_iff frozen).mp outcome
        exact .repeated frozen found
  | lookup name location =>
    have opened : t.call (.lookup name location) = _ :=
      run_lift_bind t (t.lookup name location) fun s => return Reply.symbol s
    have same : t.call (.lookup name location) = ((t.lookup name location).map .symbol, t) := by
      rw [opened]
      cases t.lookup name location <;> rfl
    rw [same]
    exact .lookup name location
  | find name => exact .find name
  | note name location => exact .note name location
  | freeze => exact .freeze

variable {c : Call} {result : Except Error Reply × SymbolTable}

/-- A call adds the symbol of a definition that succeeds, and nothing else. -/
theorem Effect.symbols (effect : Effect t c result) :
    result.2.symbols = t.symbols ++ (Event.registered? ⟨c, result.1⟩).toList := by
  cases effect with
  | defined => rfl
  | _ => exact (List.append_nil t.symbols).symm

theorem Effect.distinct (effect : Effect t c result) (distinct : t.Distinct) :
    result.2.Distinct := by
  cases effect with
  | @defined name address segment location unfrozen absent =>
    have added : t.define name address segment location = .ok _ :=
      define_eq_ok_iff.mpr ⟨unfrozen, find?_eq_none_iff.mp absent, rfl⟩
    exact distinct.define added
  | _ => exact distinct

/-- Only freezing freezes a table, and nothing thaws it. -/
theorem Effect.frozen_iff (effect : Effect t c result) :
    result.2.frozen = true ↔ t.frozen = true ∨ c = .freeze := by
  cases effect with
  | freeze => simp [SymbolTable.freeze]
  | _ => simp [SymbolTable.note]

/-- A frozen table registers nothing. -/
theorem Effect.registered?_of_frozen (effect : Effect t c result) (frozen : t.frozen = true) :
    Event.registered? ⟨c, result.1⟩ = none := by
  cases effect with
  | defined unfrozen absent => simp [frozen] at unfrozen
  | _ => rfl

/-! ## All calls -/

theorem after_append (t : SymbolTable) (calls later : List Call) :
    t.after (calls ++ later) = (t.after calls).after later := by
  induction calls generalizing t with
  | nil => rfl
  | cons c rest ih => exact ih (t.call c).2

theorem after_symbols (t : SymbolTable) (calls : List Call) :
    (t.after calls).symbols = t.symbols ++ t.registered calls := by
  induction calls generalizing t with
  | nil => simp [after, registered, history]
  | cons c rest ih =>
    have split : t.registered (c :: rest) =
        (Event.registered? ⟨c, (t.call c).1⟩).toList ++ (t.call c).2.registered rest := by
      rw [registered, history, List.filterMap_cons]
      cases Event.registered? ⟨c, (t.call c).1⟩ <;> rfl
    rw [after, ih, (t.effect_call c).symbols, split, List.append_assoc]

theorem after_distinct (distinct : t.Distinct) (calls : List Call) : (t.after calls).Distinct := by
  induction calls generalizing t with
  | nil => exact distinct
  | cons c rest ih => exact ih ((t.effect_call c).distinct distinct)

theorem after_frozen_iff (t : SymbolTable) (calls : List Call) :
    (t.after calls).frozen = true ↔ t.frozen = true ∨ .freeze ∈ calls := by
  induction calls generalizing t with
  | nil => simp [after]
  | cons c rest ih =>
    rw [after, ih, (t.effect_call c).frozen_iff, List.mem_cons, or_assoc, eq_comm (a := c)]

theorem registered_of_frozen (frozen : t.frozen = true) (calls : List Call) :
    t.registered calls = [] := by
  induction calls generalizing t with
  | nil => rfl
  | cons c rest ih =>
    have effect := t.effect_call c
    rw [registered, history, List.filterMap_cons, effect.registered?_of_frozen frozen]
    exact ih (effect.frozen_iff.mpr (.inl frozen))

/-! ## What the calls return -/

/-- A table as some calls leave it: it lists what they registered, each name once, and is frozen if
one of them froze it. -/
structure Follows (calls : List Call) (t : SymbolTable) : Prop where
  symbols : t.symbols = registered {} calls
  distinct : t.names.Nodup
  frozen_iff : t.frozen = true ↔ .freeze ∈ calls

/-- What comes of the definition of a symbol when some calls have been made. -/
structure Defines (calls : List Call) (t : SymbolTable) (s : Symbol) : Prop where
  frozen_iff : (t.call (definition s)).1 = .error (.located s.location (.frozen s.name)) ↔
    .freeze ∈ calls
  duplicate_iff : ∀ first,
    (t.call (definition s)).1 = .error (.located s.location (.duplicate s.name first)) ↔
      .freeze ∉ calls ∧
        ∃ earlier ∈ registered {} calls, earlier.name = s.name ∧ first = some earlier.location
  defined_iff : (t.call (definition s)).1 = .ok (.symbol s) ↔
    .freeze ∉ calls ∧ ∀ earlier ∈ registered {} calls, earlier.name ≠ s.name
  added : (t.call (definition s)).1 = .ok (.symbol s) →
    (t.call (definition s)).2 = { t with symbols := t.symbols ++ [s] }
  unchanged : ∀ e, (t.call (definition s)).1 = .error e → (t.call (definition s)).2 = t

/-- What is found under a name when some calls have been made. -/
structure Finds (calls : List Call) (t : SymbolTable) (name : Text) : Prop where
  find_some_iff : ∀ s, (t.call (.find name)).1 = .ok (.found (some s)) ↔
    s ∈ registered {} calls ∧ s.name = name
  find_none_iff : (t.call (.find name)).1 = .ok (.found none) ↔
    ∀ s ∈ registered {} calls, s.name ≠ name
  find_unchanged : (t.call (.find name)).2 = t
  lookup_ok_iff : ∀ location s, (t.call (.lookup name location)).1 = .ok (.symbol s) ↔
    s ∈ registered {} calls ∧ s.name = name
  lookup_error_iff : ∀ location e, (t.call (.lookup name location)).1 = .error e ↔
    (∀ s ∈ registered {} calls, s.name ≠ name) ∧
      e = .located location (.undefined name (t.similar name))
  lookup_unchanged : ∀ location, (t.call (.lookup name location)).2 = t

namespace Follows

variable {calls : List Call}

theorem find?_eq_some_iff (follows : Follows calls t) :
    t.find? name = some s ↔ s ∈ registered {} calls ∧ s.name = name := by
  rw [← follows.symbols]
  constructor
  · exact mem_of_find?
  · rintro ⟨member, rfl⟩
    exact find?_of_mem follows.distinct member

theorem find?_eq_none_iff (follows : Follows calls t) :
    t.find? name = none ↔ ∀ s ∈ registered {} calls, s.name ≠ name := by
  rw [← follows.symbols, SymbolTable.find?_eq_none_iff, names]
  simp

theorem defines (follows : Follows calls t) (s : Symbol) : Defines calls t s := by
  have effect : Effect t (.define s.name s.address s.segment s.location) (t.call (definition s)) :=
    t.effect_call (definition s)
  generalize outcome : t.call (definition s) = result at effect
  cases effect with
  | refused frozen =>
    have late := follows.frozen_iff.mp frozen
    refine ⟨?_, ?_, ?_, ?_, ?_⟩ <;> simp [outcome, late, Error.located]
  | @repeated _ _ _ _ first unfrozen found =>
    have early : .freeze ∉ calls := by simp [← follows.frozen_iff, unfrozen]
    have known := follows.find?_eq_some_iff.mp found
    have only : ∀ other ∈ registered {} calls, other.name = s.name → other = first := by
      intro other member same
      have also := follows.find?_eq_some_iff.mpr ⟨member, same⟩
      exact Option.some.inj (also.symm.trans found)
    refine ⟨?_, ?_, ?_, ?_, ?_⟩
    · simp [outcome, early, Error.located]
    · intro place
      simp only [outcome, Error.located, Except.error.injEq, Error.diagnostic.injEq,
        Diagnostic.mk.injEq, Cause.duplicate.injEq, true_and, and_true, early, not_false_eq_true]
      constructor
      · rintro rfl
        exact ⟨first, known.1, known.2, rfl⟩
      · rintro ⟨other, member, same, rfl⟩
        rw [only other member same]
    · simp only [outcome, reduceCtorEq, false_iff, not_and]
      intro _ new
      exact new first known.1 known.2
    · simp [outcome]
    · simp [outcome]
  | defined unfrozen absent =>
    have early : .freeze ∉ calls := by simp [← follows.frozen_iff, unfrozen]
    have new := follows.find?_eq_none_iff.mp absent
    refine ⟨?_, ?_, ?_, ?_, ?_⟩
    · simp [outcome, early]
    · intro place
      simp only [outcome, reduceCtorEq, false_iff, not_and]
      rintro _ ⟨other, member, same, -⟩
      exact new other member same
    · simpa [outcome, early] using new
    · simp [outcome]
    · simp [outcome]

theorem finds (follows : Follows calls t) (name : Text) : Finds calls t name := by
  have found : t.call (.find name) = (.ok (.found (t.find? name)), t) := rfl
  have looked : ∀ location, t.call (.lookup name location) =
      ((t.lookup name location).map .symbol, t) := by
    intro location
    have effect := t.effect_call (.lookup name location)
    generalize t.call (.lookup name location) = result at effect
    cases effect
    rfl
  refine ⟨?_, ?_, rfl, ?_, ?_, ?_⟩
  · intro s
    simp [found, ← follows.find?_eq_some_iff]
  · simp [found, ← follows.find?_eq_none_iff]
  · intro location s
    rw [looked, Outcome.map_eq_ok_iff, ← follows.find?_eq_some_iff]
    simp [lookup_eq_ok_iff]
  · intro location e
    rw [looked, Outcome.map_eq_error_iff, lookup_eq_error_iff, ← follows.find?_eq_none_iff,
      SymbolTable.find?_eq_none_iff, undefined]
  · intro location
    rw [looked]

end Follows

theorem follows_after (calls : List Call) : Follows calls (after {} calls) := by
  have empty : Distinct {} := List.nodup_nil
  refine ⟨after_symbols {} calls, after_distinct empty calls, ?_⟩
  simp [after_frozen_iff]

/-- Whatever calls are made on an empty table, the table lists what was registered, in order and
each name once, and later calls only add to it, or not even that once it is frozen. What a
definition or a look-up comes to can be told from the calls before it. -/
theorem after_history (calls later : List Call) :
    Follows calls (after {} calls) ∧
      (after {} calls).symbols <+: (after {} (calls ++ later)).symbols ∧
      (.freeze ∈ calls →
        (after {} (calls ++ later)).symbols = (after {} calls).symbols ∧
          (after {} (calls ++ later)).frozen = true) ∧
      (∀ s, Defines calls (after {} calls) s) ∧
      ∀ name, Finds calls (after {} calls) name := by
  have follows := follows_after calls
  have symbols := after_symbols (after {} calls) later
  rw [← after_append] at symbols
  refine ⟨follows, ⟨_, symbols.symm⟩, ?_, follows.defines, follows.finds⟩
  intro frozen
  constructor
  · rw [symbols, registered_of_frozen (follows.frozen_iff.mpr frozen), List.append_nil]
  · exact (follows_after (calls ++ later)).frozen_iff.mpr (List.mem_append_left later frozen)

/-- A name is defined twice, and another one too late. -/
def sampleCalls : List Call :=
  [.define "x" 4 .data ⟨.data, 1⟩, .note "y" none, .define "x" 8 .instructions ⟨.instructions, 0⟩,
    .freeze, .define "y" 12 .data ⟨.data, 2⟩]

theorem after_history_sample :
    Call.freeze ∈ sampleCalls ∧
      registered {} sampleCalls = [⟨"x", 4, .data, ⟨.data, 1⟩⟩] ∧
      (after {} sampleCalls).frozen = true ∧
      ∀ later, (after {} (sampleCalls ++ later)).symbols = [⟨"x", 4, .data, ⟨.data, 1⟩⟩] := by
  have frozen : Call.freeze ∈ sampleCalls := by decide
  have listed : registered {} sampleCalls = [⟨"x", 4, .data, ⟨.data, 1⟩⟩] := by decide +kernel
  have follows := (after_history sampleCalls []).1
  refine ⟨frozen, listed, follows.frozen_iff.mpr frozen, ?_⟩
  intro later
  rw [((after_history sampleCalls later).2.2.1 frozen).1, follows.symbols, listed]

end Assembler.SymbolTable
