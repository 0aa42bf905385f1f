import Assembler.Text.Distance
import Mathlib.Order.Bounds.Basic
import Mathlib.Order.MinMax

/-!
# The edit distance counts edits

An edit inserts, deletes or substitutes one code point anywhere in a text. `Text.distance` is the
least number of edits that turn one text into the other, so it is a metric.

The table is compared with `Text.cost`, which reads both texts from their ends as a recursion: a row
holds the costs of one beginning against every beginning of the other text. That no sequence of
edits is shorter than the cost rests on one fact: an edit changes the cost by at most one. For an
edit at the head it says that neighbours in the table differ by at most one, and this is also why
the diagonal may be taken as it is when two code points match.
-/

namespace Assembler.Text

/-! ## Edits -/

/-- One insertion, deletion or substitution of a code point. -/
inductive Edit : Text → Text → Prop
  | insert (front back : Text) (c : CodePoint) : Edit (front ++ back) (front ++ c :: back)
  | delete (front back : Text) (c : CodePoint) : Edit (front ++ c :: back) (front ++ back)
  | substitute (front back : Text) (c d : CodePoint) :
      Edit (front ++ c :: back) (front ++ d :: back)

/-- So many edits, one after the other, turn a text into another. -/
inductive Edits : Nat → Text → Text → Prop
  | nil (a : Text) : Edits 0 a a
  | cons {n : Nat} {a b c : Text} (first : Edit a b) (others : Edits n b c) :
      Edits (n + 1) a c

variable {a b : Text} {n : Nat}

theorem Edit.symm (edit : Edit a b) : Edit b a := by
  cases edit with
  | insert front back c => exact .delete front back c
  | delete front back c => exact .insert front back c
  | substitute front back c d => exact .substitute front back d c

theorem Edit.cons (x : CodePoint) (edit : Edit a b) : Edit (x :: a) (x :: b) := by
  cases edit with
  | insert front back c => exact .insert (x :: front) back c
  | delete front back c => exact .delete (x :: front) back c
  | substitute front back c d => exact .substitute (x :: front) back c d

theorem Edit.reverse (edit : Edit a b) : Edit a.reverse b.reverse := by
  cases edit with
  | insert front back c => simpa using Edit.insert back.reverse front.reverse c
  | delete front back c => simpa using Edit.delete back.reverse front.reverse c
  | substitute front back c d => simpa using Edit.substitute back.reverse front.reverse c d

theorem Edits.map {f : Text → Text}
    (each : ∀ {a b : Text}, Edit a b → Edit (f a) (f b)) (edits : Edits n a b) :
    Edits n (f a) (f b) := by
  induction edits with
  | nil a => exact .nil (f a)
  | cons first _ ih => exact .cons (each first) ih

theorem Edits.trans {m : Nat} {c : Text} (first : Edits m a b) (second : Edits n b c) :
    Edits (m + n) a c := by
  induction first with
  | nil a => rwa [Nat.zero_add]
  | cons edit _ ih =>
    rw [Nat.add_right_comm]
    exact .cons edit (ih second)

theorem Edits.single (edit : Edit a b) : Edits 1 a b := .cons edit (.nil b)

theorem Edits.symm (edits : Edits n a b) : Edits n b a := by
  induction edits with
  | nil a => exact .nil a
  | cons first _ ih => exact ih.trans (.single first.symm)

theorem edits_zero_iff : Edits 0 a b ↔ a = b := by
  constructor
  · intro edits
    cases edits
    rfl
  · rintro rfl
    exact .nil a

/-! ## Costs -/

/-- The number of edits that are needed if equal characters at the heads are kept. -/
def cost : Text → Text → Nat
  | [], b => b.length
  | a, [] => a.length
  | c :: a, d :: b =>
    if c = d then cost a b
    else 1 + min (min (cost a b) (cost a (d :: b))) (cost (c :: a) b)

@[simp]
theorem cost_nil_left (b : Text) : cost [] b = b.length := by
  rw [cost]

@[simp]
theorem cost_nil_right (a : Text) : cost a [] = a.length := by
  cases a <;> simp [cost]

theorem cost_cons_cons (c d : CodePoint) (a b : Text) :
    cost (c :: a) (d :: b) =
      if c = d then cost a b
      else 1 + min (min (cost a b) (cost a (d :: b))) (cost (c :: a) b) := by
  rw [cost]

theorem cost_comm (a b : Text) : cost a b = cost b a := by
  induction a generalizing b with
  | nil => simp
  | cons c a ihA =>
    induction b with
    | nil => simp
    | cons d b ihB =>
      rw [cost_cons_cons, cost_cons_cons, ihA b, ihA (d :: b), ihB]
      by_cases same : c = d
      · rw [if_pos same, if_pos same.symm]
      · rw [if_neg same, if_neg (Ne.symm same)]
        omega

theorem cost_self (a : Text) : cost a a = 0 := by
  induction a with
  | nil => simp
  | cons c a ih => rw [cost_cons_cons, if_pos rfl, ih]

/-- The cost is paid by some edits. -/
theorem edits_cost (a b : Text) : Edits (cost a b) a b := by
  induction a generalizing b with
  | nil =>
    rw [cost_nil_left]
    induction b with
    | nil => exact .nil []
    | cons d b ih => exact ih.trans (.single (.insert [] b d))
  | cons c a ihA =>
    induction b with
    | nil =>
      have emptied := ihA []
      rw [cost_nil_right] at emptied ⊢
      exact .cons (.delete [] a c) emptied
    | cons d b ihB =>
      rw [cost_cons_cons]
      split
      · rename_i same
        subst same
        exact (ihA b).map (f := List.cons c) (Edit.cons c)
      · have substituted : Edits (cost a b + 1) (c :: a) (d :: b) :=
          .cons (.substitute [] a c d) ((ihA b).map (f := List.cons d) (Edit.cons d))
        have deleted : Edits (cost a (d :: b) + 1) (c :: a) (d :: b) :=
          .cons (.delete [] a c) (ihA (d :: b))
        have inserted : Edits (cost (c :: a) b + 1) (c :: a) (d :: b) :=
          ihB.trans (.single (.insert [] b d))
        rw [Nat.add_comm]
        rcases min_choice (min (cost a b) (cost a (d :: b))) (cost (c :: a) b) with least | least
        · rw [least]
          rcases min_choice (cost a b) (cost a (d :: b)) with least | least
          · rwa [least]
          · rwa [least]
        · rwa [least]

/-! ## Neighbours -/

theorem cost_le_cons_left_of (right : ∀ d b, cost a (d :: b) ≤ cost a b + 1) (c : CodePoint)
    (b : Text) : cost a b ≤ cost (c :: a) b + 1 := by
  induction b with
  | nil =>
    simp only [cost_nil_right, List.length_cons]
    omega
  | cons d b ih =>
    have step := right d b
    rw [cost_cons_cons]
    split <;> omega

/-- Neighbours in the table differ by at most one. -/
theorem cost_neighbours (a : Text) :
    (∀ d b, cost a (d :: b) ≤ cost a b + 1) ∧ ∀ c b, cost a b ≤ cost (c :: a) b + 1 := by
  induction a with
  | nil =>
    have right : ∀ d b, cost [] (d :: b) ≤ cost [] b + 1 := by simp
    exact ⟨right, cost_le_cons_left_of right⟩
  | cons x a ih =>
    -- On a match the entry is the one on the diagonal, which is compared with the one below it.
    have right : ∀ d b, cost (x :: a) (d :: b) ≤ cost (x :: a) b + 1 := by
      intro d b
      have step := ih.2 x b
      rw [cost_cons_cons]
      split <;> omega
    exact ⟨right, cost_le_cons_left_of right⟩

theorem cost_cons_right_le (d : CodePoint) (a b : Text) : cost a (d :: b) ≤ cost a b + 1 :=
  (cost_neighbours a).1 d b

theorem cost_le_cons_left (c : CodePoint) (a b : Text) : cost a b ≤ cost (c :: a) b + 1 :=
  (cost_neighbours a).2 c b

theorem cost_cons_left_le (c : CodePoint) (a b : Text) : cost (c :: a) b ≤ cost a b + 1 := by
  rw [cost_comm, cost_comm a]
  exact cost_cons_right_le c b a

/-- A substitution at the head changes the cost by at most one. -/
theorem cost_substitute_le (c d : CodePoint) (a b : Text) :
    cost (c :: a) b ≤ cost (d :: a) b + 1 := by
  induction b with
  | nil => simp
  | cons x b ih =>
    have diagonal : cost (c :: a) (x :: b) ≤ cost a b + 1 := by
      rw [cost_cons_cons]
      split <;> omega
    have above := cost_cons_left_le c a (x :: b)
    have left := cost_cons_right_le x (c :: a) b
    rw [cost_cons_cons d]
    split <;> omega

/-- What changes no cost by more than one does not do so behind another character either. -/
theorem cost_cons_le {a' : Text} (near : ∀ b, cost a b ≤ cost a' b + 1) (x : CodePoint)
    (b : Text) : cost (x :: a) b ≤ cost (x :: a') b + 1 := by
  induction b with
  | nil => simpa using near []
  | cons d b ih =>
    have diagonal := near b
    have above := near (d :: b)
    rw [cost_cons_cons, cost_cons_cons]
    split <;> omega

/-- An edit changes a cost by at most one. -/
theorem cost_le_of_edit {a' : Text} (edit : Edit a a') (b : Text) :
    cost a b ≤ cost a' b + 1 := by
  have behind : ∀ {u v : Text} (front : Text), (∀ b, cost u b ≤ cost v b + 1) →
      ∀ b, cost (front ++ u) b ≤ cost (front ++ v) b + 1 := by
    intro u v front near
    induction front with
    | nil => exact near
    | cons x front ih => exact cost_cons_le ih x
  cases edit with
  | insert front back c => exact behind front (cost_le_cons_left c back) b
  | delete front back c => exact behind front (cost_cons_left_le c back) b
  | substitute front back c d => exact behind front (cost_substitute_le c d back) b

/-- No sequence of edits is shorter than the cost. -/
theorem cost_le_of_edits (edits : Edits n a b) : cost a b ≤ n := by
  induction edits with
  | nil a => exact (cost_self a).le
  | cons first _ ih =>
    have step := cost_le_of_edit first
    exact (step _).trans (Nat.succ_le_succ ih)

/-! ## The table -/

/-- The costs of `p` against the longer and longer beginnings of a text, of which `q` was read. Both
`p` and `q` hold the last character first. -/
def costs (p q : Text) : Text → List Nat
  | [] => []
  | d :: others => cost p (d :: q) :: costs p (d :: q) others

theorem nextEntries_eq_costs (c : CodePoint) (p q others : Text) :
    nextEntries c (cost p q) (cost (c :: p) q) others (costs p q others) =
      costs (c :: p) q others := by
  induction others generalizing q with
  | nil => rfl
  | cons d others ih =>
    have entry : cost (c :: p) (d :: q) =
        if c = d then cost p q
        else 1 + Nat.min (Nat.min (cost p q) (cost p (d :: q))) (cost (c :: p) q) :=
      cost_cons_cons c d p q
    simp only [nextEntries, costs, ← entry, ih (d :: q)]

/-- The row of a beginning of the first text. -/
def costRow (p others : Text) : List Nat := cost p [] :: costs p [] others

/-- The step of the table: the next row belongs to one character more. -/
theorem nextRow_eq_costRow (c : CodePoint) (p others : Text) :
    nextRow c (p.length + 1) others (costRow p others) = costRow (c :: p) others := by
  have first : p.length + 1 = cost (c :: p) [] := by simp
  rw [costRow, nextRow, first, nextEntries_eq_costs, costRow]

theorem lastRow_eq_costRow (p others rest : Text) :
    lastRow others p.length (costRow p others) rest = costRow (rest.reverse ++ p) others := by
  induction rest generalizing p with
  | nil => rfl
  | cons c rest ih =>
    rw [lastRow, nextRow_eq_costRow]
    simpa using ih (c :: p)

/-- The first row counts the characters to be inserted. -/
theorem range_eq_costRow (others : Text) :
    List.range (others.length + 1) = costRow [] others := by
  have counted : ∀ q, costs [] q others = List.range' (q.length + 1) others.length := by
    induction others with
    | nil => simp [costs]
    | cons d others ih =>
      intro q
      simp [costs, ih (d :: q), List.range'_succ]
  rw [costRow, counted, List.range_eq_range', List.range'_succ, cost_nil_left]
  rfl

theorem getLastD_costs (p q others : Text) (default : Nat) :
    (cost p q :: costs p q others).getLastD default = cost p (others.reverse ++ q) := by
  induction others generalizing q with
  | nil => rfl
  | cons d others ih => simpa [costs] using ih (d :: q)

theorem tableDistance_eq_cost (a b : Text) :
    tableDistance a b = cost a.reverse b.reverse := by
  have rows := lastRow_eq_costRow [] b a
  rw [List.length_nil, ← range_eq_costRow, List.append_nil] at rows
  rw [tableDistance, rows, costRow, getLastD_costs, List.append_nil]

theorem distance_eq_cost (a b : Text) : distance a b = cost a.reverse b.reverse := by
  rw [distance]
  split
  · rw [tableDistance_eq_cost, cost_comm]
  · exact tableDistance_eq_cost a b

/-! ## The distance -/

theorem edits_distance (a b : Text) : Edits (distance a b) a b := by
  have edits := (edits_cost a.reverse b.reverse).map Edit.reverse
  rwa [List.reverse_reverse, List.reverse_reverse, ← distance_eq_cost] at edits

theorem distance_le_of_edits (edits : Edits n a b) : distance a b ≤ n := by
  rw [distance_eq_cost]
  exact cost_le_of_edits (edits.map Edit.reverse)

/-- The distance is the least number of edits that turn one text into the other. So it is symmetric,
it is zero for equal texts only, and a detour is never shorter. -/
theorem distance_counts_edits :
    (∀ a b, IsLeast {n | Edits n a b} (distance a b)) ∧
      (∀ a b, distance a b = distance b a) ∧
      (∀ a b, distance a b = 0 ↔ a = b) ∧
      ∀ a b c, distance a c ≤ distance a b + distance b c := by
  refine ⟨?_, ?_, ?_, ?_⟩
  · intro a b
    exact ⟨edits_distance a b, fun n edits => distance_le_of_edits edits⟩
  · intro a b
    exact le_antisymm (distance_le_of_edits (edits_distance b a).symm)
      (distance_le_of_edits (edits_distance a b).symm)
  · intro a b
    constructor
    · intro zero
      have edits := edits_distance a b
      rw [zero] at edits
      exact edits_zero_iff.mp edits
    · intro same
      exact Nat.le_zero.mp (distance_le_of_edits (edits_zero_iff.mpr same))
  · intro a b c
    exact distance_le_of_edits ((edits_distance a b).trans (edits_distance b c))

example : distance "kitten" "sitting" = 3 := by decide

end Assembler.Text
