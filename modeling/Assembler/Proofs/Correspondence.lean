import Mathlib.Data.List.Forall2

/-!
# Lists that correspond item by item

A pass maps a list to a list of the same length. `List.Forall₂` says so without a function, and
the laws here find the partner of an item and split a list the way its partner is split. A pass
that fails does so at the first item in error. A list may also be a list of blocks, of which the
first item in error tells the first block in error.
-/

namespace Assembler

/-! ## First items -/

/-- An item of a list that lacks a property, while all items before it have it. -/
structure First {α : Type} (Good : α → Prop) (items : List α) (index : Nat) (item : α) : Prop where
  found : items[index]? = some item
  bad : ¬ Good item
  before : ∀ j < index, ∀ other, items[j]? = some other → Good other

namespace First

variable {α : Type} {Good : α → Prop} {items : List α} {i j : Nat} {x y : α}

theorem not_lt (first : First Good items i x) (second : First Good items j y) : ¬ i < j := by
  intro less
  exact first.bad (second.before i less x first.found)

theorem unique (first : First Good items i x) (second : First Good items j y) :
    i = j ∧ x = y := by
  have same : i = j := by
    have := first.not_lt second
    have := second.not_lt first
    omega
  subst same
  have found := first.found
  rw [second.found] at found
  exact ⟨rfl, (Option.some.inj found).symm⟩

theorem head {rest : List α} (bad : ¬ Good x) : First Good (x :: rest) 0 x := by
  refine ⟨rfl, bad, ?_⟩
  intro j below
  omega

theorem tail (good : Good y) (first : First Good items i x) :
    First Good (y :: items) (i + 1) x := by
  refine ⟨first.found, first.bad, ?_⟩
  intro j below other found
  cases j with
  | zero =>
    cases found
    exact good
  | succ j => exact first.before j (by omega) other found

theorem not_all (first : First Good items i x) : ¬ ∀ item ∈ items, Good item := by
  intro all
  exact first.bad (all x (List.mem_of_getElem? first.found))

end First

/-! ## Partners -/

namespace Correspondence

variable {α β : Type} {R : α → β → Prop} {left : List α} {right : List β}

theorem getElem?_left (related : List.Forall₂ R left right) {k : Nat} {a : α}
    (found : left[k]? = some a) : ∃ b, right[k]? = some b ∧ R a b := by
  induction related generalizing k with
  | nil => simp at found
  | cons first _ ih =>
    cases k with
    | zero =>
      simp only [List.getElem?_cons_zero, Option.some.injEq] at found
      subst found
      exact ⟨_, rfl, first⟩
    | succ k => exact ih found

theorem getElem?_right (related : List.Forall₂ R left right) {k : Nat} {b : β}
    (found : right[k]? = some b) : ∃ a, left[k]? = some a ∧ R a b :=
  getElem?_left related.flip found

theorem mem_left (related : List.Forall₂ R left right) {a : α} (member : a ∈ left) :
    ∃ b ∈ right, R a b := by
  obtain ⟨k, found⟩ := List.mem_iff_getElem?.mp member
  obtain ⟨b, partner, pair⟩ := getElem?_left related found
  exact ⟨b, List.mem_of_getElem? partner, pair⟩

theorem mem_right (related : List.Forall₂ R left right) {b : β} (member : b ∈ right) :
    ∃ a ∈ left, R a b :=
  mem_left related.flip member

/-- A list has a partner if every item has one. -/
theorem exists_right_iff :
    (∃ right, List.Forall₂ R left right) ↔ ∀ a ∈ left, ∃ b, R a b := by
  constructor
  · rintro ⟨right, related⟩ a member
    obtain ⟨b, -, pair⟩ := mem_left related member
    exact ⟨b, pair⟩
  · intro each
    induction left with
    | nil => exact ⟨[], .nil⟩
    | cons a rest ih =>
      rw [List.forall_mem_cons] at each
      obtain ⟨b, pair⟩ := each.1
      obtain ⟨others, related⟩ := ih each.2
      exact ⟨b :: others, .cons pair related⟩

/-- The partner of a list of blocks falls into blocks. -/
theorem flatten_left {blocks : List (List α)} (related : List.Forall₂ R blocks.flatten right) :
    ∃ parts, List.Forall₂ (List.Forall₂ R) blocks parts ∧ right = parts.flatten := by
  induction blocks generalizing right with
  | nil =>
    cases related
    exact ⟨[], .nil, rfl⟩
  | cons block rest ih =>
    have first := List.forall₂_take block.length related
    have later := List.forall₂_drop block.length related
    rw [List.flatten_cons, List.take_left] at first
    rw [List.flatten_cons, List.drop_left] at later
    obtain ⟨parts, others, same⟩ := ih later
    refine ⟨right.take block.length :: parts, .cons first others, ?_⟩
    rw [List.flatten_cons, ← same, List.take_append_drop]

/-- An item of a list of blocks lies in one block, and after all items of the blocks before. -/
theorem getElem?_flatten {blocks : List (List α)} {k : Nat} {a : α}
    (found : blocks.flatten[k]? = some a) :
    ∃ (i : Nat) (block : List α), blocks[i]? = some block ∧ a ∈ block ∧
      ∀ j < i, ∀ earlier, blocks[j]? = some earlier → ∀ b ∈ earlier,
        ∃ m < k, blocks.flatten[m]? = some b := by
  induction blocks generalizing k with
  | nil => simp at found
  | cons first rest ih =>
    rw [List.flatten_cons, List.getElem?_append] at found
    split at found
    · exact ⟨0, first, rfl, List.mem_of_getElem? found, by simp⟩
    · rename_i beyond
      obtain ⟨i, block, inRest, inBlock, before⟩ := ih found
      refine ⟨i + 1, block, inRest, inBlock, ?_⟩
      intro j below earlier source b member
      cases j with
      | zero =>
        simp only [List.getElem?_cons_zero, Option.some.injEq] at source
        subst source
        obtain ⟨m, atPosition⟩ := List.mem_iff_getElem?.mp member
        have inside := (List.getElem?_eq_some_iff.mp atPosition).1
        refine ⟨m, by omega, ?_⟩
        rw [List.flatten_cons, List.getElem?_append_left inside, atPosition]
      | succ j =>
        obtain ⟨m, less, atPosition⟩ :=
          before j (Nat.lt_of_succ_lt_succ below) earlier source b member
        refine ⟨first.length + m, by omega, ?_⟩
        rw [List.flatten_cons, List.getElem?_append_right (Nat.le_add_right _ _),
          Nat.add_sub_cancel_left, atPosition]

end Correspondence

end Assembler
