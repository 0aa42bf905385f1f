import Assembler.Program
import Mathlib.Algebra.Order.BigOperators.Group.List
import Mathlib.Algebra.Order.Group.Nat
import Mathlib.Data.Set.Function

/-!
# Names in programs

The names of a program are its labels and the identifiers in its operands, and a function on names
renames them all. Functions that agree on the names of a program rename it alike, so a function that
is injective on these names may be replaced by one that is injective on all names.
-/

namespace Assembler

variable {f g : Text → Text}

/-! ## Operands and forms -/

namespace Operand

/-- An operand with its identifier renamed. -/
def renamed (f : Text → Text) : Operand → Operand
  | .label name => .label (f name)
  | .fixed value => .fixed (value.renamed f)
  | other => other

/-- The identifiers of an operand. -/
def names : Operand → List Text
  | .label name => [name]
  | .fixed value => value.names
  | _ => []

theorem renamed_congr {o : Operand} (agree : ∀ name ∈ o.names, f name = g name) :
    o.renamed f = o.renamed g := by
  induction o with
  | label name => rw [renamed, renamed, agree name (List.mem_singleton_self name)]
  | fixed value ih => rw [renamed, renamed, ih agree]
  | _ => rfl

theorem renamed_of_nameless {o : Operand} (nameless : o.names = []) : o.renamed f = o := by
  induction o with
  | label name => cases nameless
  | fixed value ih => rw [renamed, ih nameless]
  | _ => rfl

@[simp] theorem label?_renamed (o : Operand) : (o.renamed f).label? = o.label?.map f := by
  cases o <;> rfl

@[simp] theorem isNumber_renamed (o : Operand) : (o.renamed f).isNumber = o.isNumber := by
  cases o <;> rfl

/-- Whether an operand can be written does not depend on its identifier. -/
theorem isSome_text?_renamed (o : Operand) : (o.renamed f).text?.isSome = o.text?.isSome := by
  induction o with
  | fixed value ih => exact ih
  | _ => rfl

end Operand

/-- The identifiers of a field. -/
def Field.names : Field → List Text
  | .register _ => []
  | .operand o => o.names

namespace Form

/-- A form with its identifiers renamed. -/
def renamed (f : Text → Text) : Form → Form
  | .immSigned op rd rs imm => .immSigned op rd rs (imm.renamed f)
  | .immUnsigned op rd rs uimm => .immUnsigned op rd rs (uimm.renamed f)
  | .loadImm op rd imm => .loadImm op rd (imm.renamed f)
  | .setImm op rd uimm => .setImm op rd (uimm.renamed f)
  | .branch op rs target => .branch op rs (target.renamed f)
  | .loadStore op rd offset rbase => .loadStore op rd (offset.renamed f) rbase
  | .jump op target => .jump op (target.renamed f)
  | .loadWord rd imm => .loadWord rd (imm.renamed f)
  | .loadAddress op rd target => .loadAddress op rd (target.renamed f)
  | other => other

/-- The identifiers of a form. -/
def names (form : Form) : List Text := form.fields.flatMap fun field => field.2.names

theorem renamed_congr {form : Form} (agree : ∀ name ∈ form.names, f name = g name) :
    form.renamed f = form.renamed g := by
  have operand : ∀ o : Operand, o.names ⊆ form.names → o.renamed f = o.renamed g :=
    fun o inside => Operand.renamed_congr fun name member => agree name (inside member)
  cases form with
  | immSigned op rd rs o | immUnsigned op rd rs o | loadImm op rd o | setImm op rd o
  | branch op rs o | loadStore op rd o rbase | jump op o | loadWord rd o | loadAddress op rd o =>
    rw [renamed, renamed, operand o (by simp [names, fields, Field.names])]
  | _ => rfl

theorem renamed_of_nameless {form : Form} (nameless : form.names = []) :
    form.renamed f = form := by
  have operand : ∀ o : Operand, o.names ⊆ form.names → o.renamed f = o := fun o inside =>
    Operand.renamed_of_nameless (List.subset_nil.mp (nameless ▸ inside))
  cases form with
  | immSigned op rd rs o | immUnsigned op rd rs o | loadImm op rd o | setImm op rd o
  | branch op rs o | loadStore op rd o rbase | jump op o | loadWord rd o | loadAddress op rd o =>
    rw [renamed, operand o (by simp [names, fields, Field.names])]
  | _ => rfl

@[simp] theorem label?_renamed (form : Form) : (form.renamed f).label? = form.label?.map f := by
  cases form <;> simp [renamed, label?]

@[simp] theorem pseudoOpcode?_renamed (form : Form) :
    (form.renamed f).pseudoOpcode? = form.pseudoOpcode? := by
  cases form <;> rfl

end Form

namespace Instruction

/-- An instruction with its identifiers renamed. -/
def renamed (f : Text → Text) : Instruction → Instruction
  | .form body => .form (body.renamed f)
  | .foreign thing => .foreign thing

/-- The identifiers of an instruction. -/
def names : Instruction → List Text
  | .form body => body.names
  | .foreign _ => []

theorem renamed_congr {i : Instruction} (agree : ∀ name ∈ i.names, f name = g name) :
    i.renamed f = i.renamed g := by
  cases i with
  | form body => rw [renamed, renamed, Form.renamed_congr agree]
  | foreign thing => rfl

@[simp] theorem label?_renamed (i : Instruction) : (i.renamed f).label? = i.label?.map f := by
  cases i with
  | form body => exact body.label?_renamed
  | foreign thing => rfl

@[simp] theorem pseudoOpcode?_renamed (i : Instruction) :
    (i.renamed f).pseudoOpcode? = i.pseudoOpcode? := by
  cases i with
  | form body => exact body.pseudoOpcode?_renamed
  | foreign thing => rfl

end Instruction

/-! ## Data and programs -/

namespace Element

/-- A data element with its identifiers renamed. -/
def renamed (f : Text → Text) : Element → Element
  | .block size => .block (size.renamed f)
  | .list kind values => .list kind (values.map (Operand.renamed f))

/-- The identifiers of a data element. -/
def names : Element → List Text
  | .block size => size.names
  | .list _ values => values.flatMap Operand.names

theorem renamed_congr {element : Element} (agree : ∀ name ∈ element.names, f name = g name) :
    element.renamed f = element.renamed g := by
  cases element with
  | block size => rw [renamed, renamed, Operand.renamed_congr agree]
  | list kind values =>
    have each : ∀ o ∈ values, o.renamed f = o.renamed g := by
      intro o member
      apply Operand.renamed_congr
      intro name inside
      exact agree name (List.mem_flatMap.mpr ⟨o, member, inside⟩)
    rw [renamed, renamed, List.map_congr_left each]

theorem renamed_of_nameless {element : Element} (nameless : element.names = []) :
    element.renamed f = element := by
  cases element with
  | block size => rw [renamed, Operand.renamed_of_nameless nameless]
  | list kind values =>
    have each : ∀ o ∈ values, o.renamed f = o := by
      intro o member
      exact Operand.renamed_of_nameless (List.flatMap_eq_nil_iff.mp nameless o member)
    rw [renamed, List.map_congr_left each, List.map_id']

end Element

/-- A statement with its label renamed, and its body by `body`. -/
def Statement.renamed {α : Type} (body : (Text → Text) → α → α) (f : Text → Text)
    (s : Statement α) : Statement α :=
  ⟨body f s.body, s.label.map f⟩

/-- The label of a statement and the identifiers of its body. -/
def Statement.names {α : Type} (body : α → List Text) (s : Statement α) : List Text :=
  s.label.toList ++ body s.body

theorem Statement.renamed_congr {α : Type} {body : (Text → Text) → α → α}
    {names : α → List Text}
    (bodies : ∀ b, (∀ name ∈ names b, f name = g name) → body f b = body g b)
    {s : Statement α} (agree : ∀ name ∈ s.names names, f name = g name) :
    s.renamed body f = s.renamed body g := by
  have labels : s.label.map f = s.label.map g := by
    cases label : s.label with
    | none => rfl
    | some name => simp [agree name (by simp [Statement.names, label])]
  have body : body f s.body = body g s.body :=
    bodies s.body fun name member => agree name (List.mem_append_right _ member)
  rw [Statement.renamed, Statement.renamed, labels, body]

namespace Program

/-- A program with all labels and identifiers renamed. -/
def renamed (f : Text → Text) (program : Program) : Program :=
  { data := program.data.map (Statement.renamed Element.renamed f)
    instructions := program.instructions.map (Statement.renamed Instruction.renamed f) }

/-- The labels and the identifiers of a program. -/
def names (program : Program) : List Text :=
  program.data.flatMap (Statement.names Element.names) ++
    program.instructions.flatMap (Statement.names Instruction.names)

theorem renamed_congr {program : Program} (agree : ∀ name ∈ program.names, f name = g name) :
    program.renamed f = program.renamed g := by
  have data : ∀ s ∈ program.data,
      s.renamed Element.renamed f = s.renamed Element.renamed g := by
    intro s member
    apply Statement.renamed_congr fun element => Element.renamed_congr
    intro name inside
    exact agree name (List.mem_append_left _ (List.mem_flatMap.mpr ⟨s, member, inside⟩))
  have code : ∀ s ∈ program.instructions,
      s.renamed Instruction.renamed f = s.renamed Instruction.renamed g := by
    intro s member
    apply Statement.renamed_congr fun i => Instruction.renamed_congr
    intro name inside
    exact agree name (List.mem_append_right _ (List.mem_flatMap.mpr ⟨s, member, inside⟩))
  rw [renamed, renamed, List.map_congr_left data, List.map_congr_left code]

theorem mem_names_of_mem_labels {program : Program} {name : Text}
    (label : name ∈ program.labels) : name ∈ program.names := by
  rcases List.mem_append.mp label with label | label
  · obtain ⟨s, member, own⟩ := List.mem_filterMap.mp label
    apply List.mem_append_left
    exact List.mem_flatMap.mpr ⟨s, member, by simp [Statement.names, own]⟩
  · obtain ⟨s, member, own⟩ := List.mem_filterMap.mp label
    apply List.mem_append_right
    exact List.mem_flatMap.mpr ⟨s, member, by simp [Statement.names, own]⟩

end Program

/-! ## Injective renamings -/

/-- A function that is injective on some names agrees there with an injective one. All other names
are made longer than any name that the function gives. -/
theorem exists_injective_of_injOn {names : List Text}
    (injective : Set.InjOn f {name | name ∈ names}) :
    ∃ g : Text → Text, Function.Injective g ∧ ∀ name ∈ names, g name = f name := by
  let bound := (names.map fun name => (f name).length).sum
  let padding : Text := List.replicate (bound + 1) (.char '_')
  have short : ∀ name ∈ names, (f name).length ≤ bound := by
    intro name member
    exact List.le_sum_of_mem (List.mem_map_of_mem member)
  have long : ∀ name : Text, bound < (name ++ padding).length := by
    intro name
    simp only [List.length_append, padding, List.length_replicate]
    omega
  refine ⟨fun name => if name ∈ names then f name else name ++ padding, ?_, ?_⟩
  · intro a b same
    simp only at same
    by_cases first : a ∈ names <;> by_cases second : b ∈ names
    · simp only [first, second, if_true] at same
      exact injective first second same
    · simp only [first, second, if_true, if_false] at same
      have := short a first
      have := long b
      rw [← same] at this
      omega
    · simp only [first, second, if_true, if_false] at same
      have := short b second
      have := long a
      rw [same] at this
      omega
    · simp only [first, second, if_false] at same
      exact List.append_cancel_right same
  · intro name member
    simp [member]

end Assembler
