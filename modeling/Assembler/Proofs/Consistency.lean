import Assembler.Proofs.Assembly

/-!
# The image check finds nothing

`Image.build` looks at the result of the passes as a whole: labels, names in use, and leftover
pseudo-instructions. Once the passes have succeeded none of its checks can fail. A label that was
placed is in the table with the address of its statement, a name in use was looked up, and an
expansion holds machine instructions only.
-/

namespace Assembler

namespace Image

/-! ## Placed labels -/

theorem labelled?_eq_some_iff {label : Option Text} {address : Int}
    {location : Option Location} {l : Labelled} :
    labelled? label address location = some l ↔
      l.name ≠ [] ∧ label = some l.name ∧ l.address = address ∧ l.location = location := by
  obtain ⟨name, place, source⟩ := l
  cases label with
  | none => simp [labelled?]
  | some other =>
    by_cases empty : other = []
    · subst empty
      simp only [labelled?, if_true, reduceCtorEq, Option.some.injEq, false_iff, not_and]
      intro named same
      exact absurd same.symm named
    · simp only [labelled?, empty, if_false, Option.some.injEq, Labelled.mk.injEq]
      constructor
      · rintro ⟨rfl, rfl, rfl⟩
        exact ⟨empty, rfl, rfl, rfl⟩
      · rintro ⟨-, rfl, rfl, rfl⟩
        exact ⟨rfl, rfl, rfl⟩

/-- The names of the placed labels are the labels that are not empty. -/
theorem map_name_labelled {α : Type} (label : α → Option Text) (address : α → Int)
    (location : α → Option Location) (items : List α) :
    (items.filterMap fun x => labelled? (label x) (address x) (location x)).map Labelled.name =
      (items.filterMap label).filter (· ≠ []) := by
  induction items with
  | nil => rfl
  | cons x rest ih =>
    cases named : label x with
    | none => simpa [named, labelled?] using ih
    | some name =>
      by_cases empty : name = [] <;> simpa [named, labelled?, empty] using ih

theorem map_name_placedLabels {data : List PlacedData} {instructions : List PlacedInstruction} :
    (placedLabels data instructions).map Labelled.name =
      (data.filterMap PlacedData.label ++
        instructions.filterMap PlacedInstruction.label).filter (· ≠ []) := by
  rw [placedLabels, List.map_append, map_name_labelled, map_name_labelled, List.filter_append]

theorem mem_placedLabels_iff {data : List PlacedData} {instructions : List PlacedInstruction}
    {l : Labelled} :
    l ∈ placedLabels data instructions ↔
      l.name ≠ [] ∧
        ((∃ d ∈ data, d.label = some l.name ∧ l.address = d.address ∧ l.location = d.location) ∨
          ∃ p ∈ instructions,
            p.label = some l.name ∧ l.address = p.address ∧ l.location = p.location) := by
  simp only [placedLabels, List.mem_append, List.mem_filterMap, labelled?_eq_some_iff]
  grind

/-- The placed labels are defined at their addresses if those of both segments are. -/
theorem placedLabels_defined_iff {data : List PlacedData} {instructions : List PlacedInstruction}
    {symbols : SymbolTable} :
    (∀ l ∈ placedLabels data instructions,
        ∃ s, symbols.find? l.name = some s ∧ s.address = l.address) ↔
      (∀ d ∈ data, ∀ name, d.label = some name → name ≠ [] →
        ∃ s, symbols.find? name = some s ∧ s.address = d.address) ∧
      ∀ p ∈ instructions, ∀ name, p.label = some name → name ≠ [] →
        ∃ s, symbols.find? name = some s ∧ s.address = p.address := by
  constructor
  · intro defined
    constructor
    · intro d member name label named
      exact defined ⟨name, d.address, d.location⟩
        (mem_placedLabels_iff.mpr ⟨named, .inl ⟨d, member, label, rfl, rfl⟩⟩)
    · intro p member name label named
      exact defined ⟨name, p.address, p.location⟩
        (mem_placedLabels_iff.mpr ⟨named, .inr ⟨p, member, label, rfl, rfl⟩⟩)
  · intro defined l member
    obtain ⟨named, ⟨d, inside, label, address, -⟩ | ⟨p, inside, label, address, -⟩⟩ :=
      mem_placedLabels_iff.mp member
    · rw [address]
      exact defined.1 d inside l.name label named
    · rw [address]
      exact defined.2 p inside l.name label named

end Image

/-! ## The table and the placed statements -/

namespace Layout

variable {program : Program} {config : Config} {layout : Layout}

/-- The label of a data element is in the table with its address. -/
theorem data_label_defined (built : build program config = .ok layout) {d : PlacedData}
    (member : d ∈ layout.data) {name : Text} (label : d.label = some name) :
    ∃ s, layout.symbols.find? name = some s ∧ s.address = d.address := by
  obtain ⟨k, found⟩ := List.mem_iff_getElem?.mp member
  have source : program.data[k]? = some ⟨d.element, d.label⟩ := by
    rw [← build_data_labels built, List.getElem?_map, found]
    rfl
  have entered : (⟨name, d.address, .data, ⟨.data, (0 + k : Nat)⟩⟩ : Symbol) ∈
      layout.symbols.symbols := by
    rw [build_symbols built, List.mem_append, mem_labelSymbols]
    exact .inl ⟨k, _, source, by rw [List.getElem?_map, found]; rfl, label, rfl, rfl⟩
  exact ⟨_, SymbolTable.find?_of_mem (build_distinct built) entered, rfl⟩

end Layout

namespace Expanded

variable {program : Program} {config : Config} {layout : Layout}
  {blocks : List (List PlacedInstruction)} {instructions : List PlacedInstruction}

/-- The label of an instruction is in the table with its address. -/
theorem instruction_label_defined (expanded : Expanded program config layout blocks)
    {p : PlacedInstruction} (member : p ∈ blocks.flatten) {name : Text}
    (label : p.label = some name) :
    ∃ s, layout.symbols.find? name = some s ∧ s.address = p.address := by
  obtain ⟨k, j, statement, address, forms, form, source, atAddress, -, -, rfl⟩ :=
    expanded.expands.origin member
  have first : j = 0 := by
    by_contra later
    simp [later] at label
  subst first
  simp only [if_true] at label
  have entered : (⟨name, address, .instructions, ⟨.instructions, (0 + k : Nat)⟩⟩ : Symbol) ∈
      layout.symbols.symbols := by
    rw [Layout.build_symbols expanded.built, List.mem_append, Layout.mem_labelSymbols,
      Layout.mem_labelSymbols]
    exact .inr ⟨k, statement, source, atAddress, label, rfl, rfl⟩
  exact ⟨_, SymbolTable.find?_of_mem (Layout.build_distinct expanded.built) entered, by simp⟩

/-! ## The check -/

theorem placedLabels_nodup (expanded : Expanded program config layout blocks)
    (resolves : List.Forall₂ (Resolution.Resolves layout.symbols) blocks.flatten instructions) :
    ((Image.placedLabels layout.data instructions).map Image.Labelled.name).Nodup := by
  have data : layout.data.filterMap PlacedData.label = program.data.filterMap Statement.label := by
    rw [← Layout.build_data_labels expanded.built, List.filterMap_map]
    rfl
  have labels : program.labels.Nodup := by
    rw [← Layout.build_names expanded.built]
    exact Layout.build_distinct expanded.built
  rw [Image.map_name_placedLabels, Resolution.filterMap_label resolves,
    expanded.expands.filterMap_label, data]
  exact labels.filter _

theorem placedLabels_defined (expanded : Expanded program config layout blocks)
    (resolves : List.Forall₂ (Resolution.Resolves layout.symbols) blocks.flatten instructions) :
    ∀ l ∈ Image.placedLabels layout.data instructions,
      ∃ s, layout.symbols.find? l.name = some s ∧ s.address = l.address := by
  refine Image.placedLabels_defined_iff.mpr ⟨?_, ?_⟩
  · intro d member name label _
    exact Layout.data_label_defined expanded.built member label
  · intro q member name label _
    obtain ⟨p, source, instruction, -, rfl⟩ := Correspondence.mem_right resolves member
    exact expanded.instruction_label_defined source label

/-- Replacing labels leaves machine instructions. -/
theorem canonical (expanded : Expanded program config layout blocks)
    (resolves : List.Forall₂ (Resolution.Resolves layout.symbols) blocks.flatten instructions) :
    ∀ q ∈ instructions, q.instruction.isPseudo = false := by
  intro q member
  obtain ⟨p, source, instruction, done, rfl⟩ := Correspondence.mem_right resolves member
  obtain ⟨k, j, statement, address, forms, form, -, -, expands, inForms, rfl⟩ :=
    expanded.expands.origin source
  obtain ⟨original, -, formExpands⟩ := Instruction.expand_eq_ok_iff.mp expands
  obtain ⟨resolved, formDone, rfl⟩ := Resolution.resolveInstruction_form.mp done
  have canonical := Form.expand_canonical formExpands form (List.mem_of_getElem? inForms)
  show resolved.isPseudo = false
  rw [Bool.eq_false_iff, Ne, Form.isPseudo_iff_shape] at canonical ⊢
  rwa [(Resolution.resolveForm_frame formDone).2]

/-- There is an image once all labels are replaced. -/
theorem image (expanded : Expanded program config layout blocks)
    (resolves : List.Forall₂ (Resolution.Resolves layout.symbols) blocks.flatten instructions)
    (warnings : List Text) :
    ∃ image, Image.build { layout with symbols := (resolve layout.symbols blocks.flatten).symbols }
      instructions warnings = .ok image := by
  have same := (resolve_frame layout.symbols blocks.flatten).1
  have distinct := expanded.placedLabels_nodup resolves
  refine ⟨_, Image.build_eq_ok_iff.mpr
    ⟨⟨distinct, ?_⟩, ?_, expanded.canonical resolves, rfl⟩⟩
  · intro l member
    obtain ⟨s, found, address⟩ := expanded.placedLabels_defined resolves l member
    exact ⟨s, (SymbolTable.find?_congr same l.name).trans found, address⟩
  · intro name member
    show name ∈ (resolve layout.symbols blocks.flatten).symbols.names
    rw [SymbolTable.names, same]
    rcases resolve_references member with before | ⟨p, inside, label⟩
    · rw [Layout.build_symbols expanded.built] at before
      simp at before
    · obtain ⟨q, -, done⟩ := Correspondence.mem_left resolves inside
      exact done.label_mem label

/-- What is left of an assembly after the expansion: the second pass decides, and the checks of the
image pass. -/
theorem assemble_eq (expanded : Expanded program config layout blocks) :
    assemble program config =
      (resolve layout.symbols blocks.flatten).outcome.map fun instructions =>
        .ofLayout { layout with symbols := (resolve layout.symbols blocks.flatten).symbols }
          instructions (resolve layout.symbols blocks.flatten).warnings := by
  have segment := (expandSegment_eq_ok_iff expanded.built).mpr ⟨blocks, expanded, rfl⟩
  simp only [assemble, expanded.built, segment]
  cases resolved : (resolve layout.symbols blocks.flatten).outcome with
  | error e => rfl
  | ok instructions =>
    obtain ⟨image, built⟩ := expanded.image (resolve_eq_ok_iff.mp resolved)
      (resolve layout.symbols blocks.flatten).warnings
    simp only [built, (Image.build_eq_ok_iff.mp built).2.2.2]
    rfl

end Expanded

end Assembler
