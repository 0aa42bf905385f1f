import Assembler.SymbolTable
import Mathlib.Data.List.Nodup

/-!
# Laws of symbol tables

A table is seen through the list of its names. Only a name that is not there can be defined, so
the names stay distinct, and then the symbol found for a name is the only one with that name.
Noting a use and freezing leave the symbols alone.
-/

namespace Assembler.SymbolTable

/-- The defined names, in the order of their definition. -/
def names (t : SymbolTable) : List Text := t.symbols.map Symbol.name

/-- No name is defined twice. -/
def Distinct (t : SymbolTable) : Prop := t.names.Nodup

variable {t u : SymbolTable} {name : Text} {s : Symbol} {location : Option Location}

/-! ## Looking names up -/

theorem find?_eq_none_iff : t.find? name = none ↔ name ∉ t.names := by
  simp [find?, names]

theorem mem_of_find? (found : t.find? name = some s) : s ∈ t.symbols ∧ s.name = name :=
  ⟨List.mem_of_find?_eq_some found, by simpa using List.find?_some found⟩

/-- In a table with distinct names a symbol is found by its name. -/
theorem find?_of_mem (distinct : t.Distinct) (member : s ∈ t.symbols) :
    t.find? s.name = some s := by
  cases found : t.find? s.name with
  | none => exact absurd (List.mem_map_of_mem member) (find?_eq_none_iff.mp found)
  | some other =>
    obtain ⟨otherMember, same⟩ := mem_of_find? found
    rw [List.inj_on_of_nodup_map distinct otherMember member same]

theorem find?_isSome_iff : (∃ s, t.find? name = some s) ↔ name ∈ t.names := by
  rw [← not_iff_not, ← find?_eq_none_iff, Option.eq_none_iff_forall_ne_some, not_exists]

theorem contains_iff : t.contains name = true ↔ name ∈ t.names := by
  rw [contains, Option.isSome_iff_exists, find?_isSome_iff]

theorem lookup_eq_ok_iff : t.lookup name location = .ok s ↔ t.find? name = some s := by
  unfold lookup
  cases t.find? name <;> simp

/-- A look-up fails exactly for names that are not defined, and names the missing one. -/
theorem lookup_eq_error_iff {e : Error} :
    t.lookup name location = .error e ↔
      name ∉ t.names ∧ e = .located location (t.undefined name) := by
  rw [← find?_eq_none_iff]
  unfold lookup
  cases t.find? name <;> simp [eq_comm]

theorem find?_congr (same : t.symbols = u.symbols) (name : Text) :
    t.find? name = u.find? name := by
  rw [find?, find?, same]

/-- Look-ups see the symbols of a table only. -/
theorem lookup_congr (same : t.symbols = u.symbols) :
    t.lookup name location = u.lookup name location := by
  simp only [lookup, find?, undefined, similar, same]

/-! ## Defining labels -/

/-- What a definition that succeeds requires and does. -/
theorem define_eq_ok_iff {address : Int} {segment : Segment} {place : Location} :
    t.define name address segment place = .ok u ↔
      t.frozen = false ∧ name ∉ t.names ∧
        u = { t with symbols := t.symbols ++ [⟨name, address, segment, place⟩] } := by
  rw [← find?_eq_none_iff]
  unfold define
  cases t.frozen <;> cases t.find? name <;> simp [eq_comm]

/-- The first error of a table that is not frozen is that a name is defined again. -/
theorem define_eq_error_iff {address : Int} {segment : Segment} {place : Location} {e : Error}
    (unfrozen : t.frozen = false) :
    t.define name address segment place = .error e ↔
      ∃ first, t.find? name = some first ∧
        e = .located place (.duplicate name (some first.location)) := by
  unfold define
  cases t.find? name <;> simp [unfrozen, eq_comm]

theorem Distinct.define {address : Int} {segment : Segment} {place : Location}
    (distinct : t.Distinct) (defined : t.define name address segment place = .ok u) :
    u.Distinct := by
  obtain ⟨-, absent, rfl⟩ := define_eq_ok_iff.mp defined
  have apart : ∀ other ∈ t.symbols, other.name ≠ name :=
    fun other member same => absent (same ▸ List.mem_map_of_mem member)
  simp only [Distinct, names, List.map_append, List.map_cons, List.map_nil,
    List.nodup_append, List.nodup_singleton] at distinct ⊢
  refine ⟨distinct, trivial, ?_⟩
  simpa using apart

/-! ## Noting uses -/

theorem mem_addUse {other : Text} {uses : List (Text × List (Option Location))} :
    other ∈ (addUse name location uses).map Prod.fst ↔
      other = name ∨ other ∈ uses.map Prod.fst := by
  induction uses with
  | nil => simp [addUse]
  | cons first rest ih =>
    obtain ⟨key, places⟩ := first
    unfold addUse
    split
    · rename_i same
      subst same
      simp
    · simp only [List.map_cons, List.mem_cons, ih]
      exact or_left_comm

/-- The names in use after a note are those before and the noted one. -/
theorem mem_references_note {other : Text} :
    other ∈ (t.note name location).references.map Prod.fst ↔
      other = name ∨ other ∈ t.references.map Prod.fst :=
  mem_addUse

end Assembler.SymbolTable
