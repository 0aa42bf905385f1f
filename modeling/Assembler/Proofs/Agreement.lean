import Assembler.Proofs.Layout
import Assembler.Proofs.Outcome

/-!
# Runs that agree

Two programs that differ in a way the assembler cannot see are assembled step by step alike. Here
`Outcome.Agree` says this of two results: both are values that are related, or both are errors that
are. The first pass is followed once for any relation between tables, statements and records that
each of its steps keeps; what a step keeps is then all that is left to show about two programs.
-/

namespace Assembler

/-! ## Two results -/

namespace Outcome

variable {ε δ α β α' β' : Type} {E : ε → δ → Prop} {R : α → β → Prop} {S : α' → β' → Prop}
  {x : Except ε α} {y : Except δ β}

/-- Both results are values that are related by `R`, or both are errors that are related by
`E`. -/
inductive Agree (E : ε → δ → Prop) (R : α → β → Prop) : Except ε α → Except δ β → Prop
  | ok {a : α} {b : β} (values : R a b) : Agree E R (.ok a) (.ok b)
  | error {e : ε} {d : δ} (errors : E e d) : Agree E R (.error e) (.error d)

namespace Agree

theorem cases (agree : Agree E R x y) :
    (∃ a b, x = .ok a ∧ y = .ok b ∧ R a b) ∨ ∃ e d, x = .error e ∧ y = .error d ∧ E e d := by
  cases agree with
  | ok values => exact .inl ⟨_, _, rfl, rfl, values⟩
  | error errors => exact .inr ⟨_, _, rfl, rfl, errors⟩

theorem refl {E : ε → ε → Prop} (same : ∀ e, E e e) (x : Except ε α) : Agree E Eq x x := by
  cases x with
  | ok a => exact .ok rfl
  | error e => exact .error (same e)

theorem mono {E' : ε → δ → Prop} {R' : α → β → Prop} (agree : Agree E R x y)
    (errors : ∀ e d, E e d → E' e d) (values : ∀ a b, R a b → R' a b) : Agree E' R' x y := by
  cases agree with
  | ok related => exact .ok (values _ _ related)
  | error related => exact .error (errors _ _ related)

theorem map {f : α → α'} {g : β → β'} (agree : Agree E R x y)
    (values : ∀ a b, R a b → S (f a) (g b)) : Agree E S (x.map f) (y.map g) := by
  cases agree with
  | ok related => exact .ok (values _ _ related)
  | error errors => exact .error errors

theorem of_toOption {x : Except ε α} {y : Except δ α} (same : x.toOption = y.toOption) :
    Agree (fun _ _ => True) Eq x y := by
  cases x with
  | ok a =>
    cases y with
    | ok b => exact .ok (Option.some.inj same)
    | error d => cases same
  | error e =>
    cases y with
    | ok b => cases same
    | error d => exact .error trivial

end Agree

end Outcome

/-! ## The first pass -/

namespace Layout

open Outcome

variable {α β : Type} {E : Error → Error → Prop} {T : SymbolTable → SymbolTable → Prop}
  {S : Statement α → Statement α → Prop} {R : β → β → Prop} {place : Placing α β}

/-- What two walks that are related share: the end, the records one by one, and the table. -/
structure Walked.Alike (T : SymbolTable → SymbolTable → Prop) (R : β → β → Prop)
    (walked other : Walked β) : Prop where
  next : other.next = walked.next
  placed : List.Forall₂ R walked.placed other.placed
  symbols : T walked.symbols other.symbols

/-- One step of a walk treats related statements alike, on related tables. -/
structure StepAlike (E : Error → Error → Prop) (T : SymbolTable → SymbolTable → Prop)
    (S : Statement α → Statement α → Prop) (R : β → β → Prop) (place : Placing α β) : Prop where
  label : ∀ {symbols other : SymbolTable} {statement again : Statement α} (address : Int)
    (location : Location), T symbols other → S statement again →
    Agree E T (defineLabel symbols statement.label address location)
      (defineLabel other again.label address location)
  place : ∀ {statement again : Statement α} (address : Int) (location : Location),
    S statement again →
    Agree E (fun sized resized => resized.1 = sized.1 ∧ R sized.2 resized.2)
      (place address location statement) (place address location again)

/-- Walks over related statements agree if each step does. -/
theorem walk_agree (same : ∀ e, E e e) (step : StepAlike E T S R place) (w : WordSize)
    (segment : Segment) {statements others : List (Statement α)}
    (related : List.Forall₂ S statements others) (index : Nat) (address : Int)
    {symbols other : SymbolTable} (tables : T symbols other) :
    Agree (fun stop halt => E stop.error halt.error) (Walked.Alike T R)
      (walk w segment place index address symbols statements)
      (walk w segment place index address other others) := by
  induction related generalizing index address symbols other with
  | nil => exact .ok ⟨rfl, .nil, tables⟩
  | @cons statement again rest later first _ ih =>
    simp only [walk]
    rcases (step.label address ⟨segment, index⟩ tables first).cases with
      ⟨defined, redefined, label, relabel, tables⟩ | ⟨e, d, label, relabel, errors⟩
    · rcases (step.place address ⟨segment, index⟩ first).cases with
        ⟨⟨size, record⟩, ⟨resize, rerecord⟩, placed, replaced, sizes, records⟩ |
        ⟨e, d, placed, replaced, errors⟩
      · simp only at sizes records
        subst sizes
        rw [label, relabel]
        simp only [placed, replaced]
        -- The end of the statement is the same in both runs, and so is the check of it.
        cases checkEnd w address resize ⟨segment, index⟩ with
        | error e => exact .error (same e)
        | ok last =>
          rcases (ih (index + 1) (address + resize) tables).cases with
            ⟨walked, rewalked, walks, rewalks, alike⟩ | ⟨stop, halt, walks, rewalks, errors⟩
          · rw [walks, rewalks]
            exact .ok ⟨alike.next, .cons records alike.placed, alike.symbols⟩
          · rw [walks, rewalks]
            exact .error errors
      · rw [label, relabel]
        simp only [placed, replaced]
        exact .error errors
    · rw [label, relabel]
      exact .error errors

/-- What two layouts that are related share: the figures and addresses, and one by one the data. -/
structure Alike (T : SymbolTable → SymbolTable → Prop) (R : PlacedData → PlacedData → Prop)
    (layout other : Layout) : Prop where
  symbols : T layout.symbols other.symbols
  data : List.Forall₂ R layout.data other.data
  rest : other = { layout with symbols := other.symbols, data := other.data }

/-- The layouts of related programs agree if each step of the two walks does. -/
theorem build_agree {D : Statement Element → Statement Element → Prop}
    {C : Statement Instruction → Statement Instruction → Prop}
    {R : PlacedData → PlacedData → Prop} {config : Config} (same : ∀ e, E e e)
    (data : StepAlike E T D R (placeData config.wordSize))
    (code : StepAlike E T C Eq (placeInstruction config.wordSize)) (tables : T {} {})
    {program other : Program} (dataRelated : List.Forall₂ D program.data other.data)
    (codeRelated : List.Forall₂ C program.instructions other.instructions) :
    Agree (fun stop halt => E stop.error halt.error) (Alike T R) (build program config)
      (build other config) := by
  simp only [build]
  rcases (walk_agree same data config.wordSize .data dataRelated 0 config.dataBase tables).cases
    with ⟨walked, rewalked, walks, rewalks, alike⟩ | ⟨stop, halt, walks, rewalks, errors⟩
  · simp only [walks, rewalks, alike.next]
    rcases (walk_agree same code config.wordSize .instructions codeRelated 0
      (config.instructionBase.getD walked.next) alike.symbols).cases with
      ⟨last, relast, lasts, relasts, tail⟩ | ⟨stop, halt, lasts, relasts, errors⟩
    · have addresses : relast.placed = last.placed := (List.forall₂_eq_eq_eq ▸ tail.placed).symm
      rw [lasts, relasts]
      refine .ok ⟨tail.symbols, alike.placed, ?_⟩
      simp only [tail.next, addresses]
    · rw [lasts, relasts]
      exact .error errors
  · simp only [walks, rewalks]
    exact .error errors

end Layout

end Assembler
