import Assembler.Image
import Assembler.Proofs.Grammar
import Assembler.Proofs.Splitting

/-!
# The text of an instruction

The words of an instruction are the name of its opcode and the texts of its fields, whatever stands
between them. Registers, numbers and addresses are told apart by their words: only registers have a
dollar sign, and only addresses have a small `x`. So the text of a form determines its opcode and
its fields, and these determine the form. A line of the listing and an entry of the document hold
the text of their instruction, and it can be found in the line even if the label looks like code.
-/

namespace Assembler

open Text (IsWord Consists isLetter isMark)

/-! ## Words of fields -/

theorem Opcode.isWord_name (op : Opcode) : IsWord op.name := by
  have table : Opcode.all.all fun op =>
      !(Text.ofString op.name).isEmpty && (Text.ofString op.name).all isLetter := by
    decide +kernel
  have entry := List.all_eq_true.mp table op op.mem_all
  rw [Bool.and_eq_true] at entry
  exact ⟨by simpa using entry.1, entry.2⟩

theorem Opcode.name_injective : Function.Injective Opcode.name := by
  intro a b same
  have own : ofName? a.name = some a := ofName?_eq_some_iff.mpr rfl
  have other : ofName? a.name = some b := ofName?_eq_some_iff.mpr same
  exact Option.some.inj (own.symm.trans other)

theorem Register.isWord_text (r : Register) : IsWord r.text := by
  have table : Register.all.all fun r => (Text.ofString r.name).all isLetter := by decide +kernel
  have letters := List.all_eq_true.mp table r r.mem_all
  rw [Text.ofString] at letters ⊢
  rw [r.toList_text]
  refine ⟨List.cons_ne_nil _ _, ?_⟩
  rw [Text.ofChars_cons, List.all_cons, letters]
  decide

theorem Register.text_injective : Function.Injective Register.text := by
  intro a b same
  have letters := congrArg String.toList same
  rw [a.toList_text, b.toList_text, List.cons.injEq, String.toList_inj] at letters
  have own : ofName? a.name = some a := ofName?_eq_some_iff.mpr rfl
  have other : ofName? a.name = some b := ofName?_eq_some_iff.mpr letters.2
  exact Option.some.inj (own.symm.trans other)

/-- An operand after resolution: a computed number, or an address. -/
def Operand.Resolved (o : Operand) : Prop :=
  (∃ n, o = .number n) ∨ ∃ a, 0 ≤ a ∧ o = .address a

/-- A field after resolution. -/
def Field.Resolved : Field → Prop
  | .register _ => True
  | .operand o => o.Resolved

namespace Operand.Resolved

variable {o other : Operand} {text : Text}

theorem text_cases (resolved : o.Resolved) (printed : o.text? = some text) :
    (∃ n, o = .number n ∧ text = Text.decimal n) ∨
      ∃ n : Nat, o = .address n ∧ text = Text.address n := by
  rcases resolved with ⟨n, rfl⟩ | ⟨a, nonneg, rfl⟩
  · left
    rw [Operand.text?, Text.decimal?, Option.ite_none_right_eq_some] at printed
    exact ⟨n, rfl, (Option.some.inj printed.2).symm⟩
  · right
    obtain ⟨n, rfl⟩ := Int.eq_ofNat_of_zero_le nonneg
    exact ⟨n, rfl, (Option.some.inj printed).symm⟩

theorem isWord (resolved : o.Resolved) (printed : o.text? = some text) : IsWord text := by
  rcases resolved.text_cases printed with ⟨n, -, rfl⟩ | ⟨n, -, rfl⟩
  · exact Text.isWord_decimal n
  · exact Text.isWord_address n

/-- There is no dollar sign in a number or an address. -/
theorem unmarked (resolved : o.Resolved) (printed : o.text? = some text) :
    .char '$' ∉ text := by
  rcases resolved.text_cases printed with ⟨n, -, rfl⟩ | ⟨n, -, rfl⟩
  · rw [Text.char_mem_ofString]
    exact fun inside => absurd (Text.mem_decimal inside) (by decide)
  · rw [Text.char_mem_ofString, Text.toList_address]
    have digits : '$' ∉ (Text.hexPadded 4 n).toList :=
      fun inside => absurd (Text.mem_capitals_of_mem_hexPadded inside) (by decide)
    simpa using digits

/-- Numbers and addresses are told apart by their texts. -/
theorem eq_of_text? (resolved : o.Resolved) (again : other.Resolved)
    (printed : o.text? = some text) (printedAgain : other.text? = some text) : o = other := by
  have apart : ∀ (n : Int) (m : Nat), Text.decimal n ≠ Text.address m := by
    intro n m same
    have small : 'x' ∈ (Text.decimal n).toList := by
      rw [same, Text.toList_address]
      simp
    exact absurd (Text.mem_decimal small) (by decide)
  rcases resolved.text_cases printed with ⟨n, rfl, rfl⟩ | ⟨n, rfl, rfl⟩
  · rcases again.text_cases printedAgain with ⟨m, rfl, same⟩ | ⟨m, -, same⟩
    · rw [Text.decimal_injective (Text.ofString_inj.mp same)]
    · exact absurd (Text.ofString_inj.mp same) (apart n m)
  · rcases again.text_cases printedAgain with ⟨m, -, same⟩ | ⟨m, rfl, same⟩
    · exact absurd (Text.ofString_inj.mp same.symm) (apart m n)
    · rw [Text.address_injective (Text.ofString_inj.mp same)]

end Operand.Resolved

namespace Field.Resolved

variable {f g : Field} {text : Text}

theorem isWord (resolved : f.Resolved) (printed : f.text? = some text) : IsWord text := by
  cases f with
  | register r =>
    rw [← Option.some.inj printed]
    exact r.isWord_text
  | operand o => exact Operand.Resolved.isWord resolved printed

/-- The text of a field determines it. -/
theorem eq_of_text? (resolved : f.Resolved) (again : g.Resolved) (printed : f.text? = some text)
    (printedAgain : g.text? = some text) : f = g := by
  have apart : ∀ {r : Register} {o : Operand}, o.Resolved →
      some (Text.ofString r.text) = some text →
      o.text? ≠ some text := by
    intro r o operand isRegister isOperand
    have marked : .char '$' ∈ text := by
      rw [← Option.some.inj isRegister, Text.char_mem_ofString, r.toList_text]
      exact List.mem_cons_self
    exact operand.unmarked isOperand marked
  cases f with
  | register r =>
    cases g with
    | register s =>
      have same : Text.ofString r.text = s.text :=
        Option.some.inj (printed.trans printedAgain.symm)
      rw [Register.text_injective (Text.ofString_inj.mp same)]
    | operand o => exact absurd printedAgain (apart again printed)
  | operand o =>
    cases g with
    | register s => exact absurd printed (apart resolved printedAgain)
    | operand p => rw [Operand.Resolved.eq_of_text? resolved again printed printedAgain]

/-- The texts of fields determine them. -/
theorem map_eq_of_texts {fs gs : List (String × Field)} {parts : List Text}
    (resolved : ∀ field ∈ fs, field.2.Resolved) (again : ∀ field ∈ gs, field.2.Resolved)
    (printed : fs.map (fun field => field.2.text?) = parts.map some)
    (printedAgain : gs.map (fun field => field.2.text?) = parts.map some) :
    fs.map Prod.snd = gs.map Prod.snd := by
  induction parts generalizing fs gs with
  | nil => rw [List.map_eq_nil_iff.mp printed, List.map_eq_nil_iff.mp printedAgain]
  | cons part rest ih =>
    obtain ⟨f, fs, rfl, first, later⟩ := List.map_eq_cons_iff.mp printed
    obtain ⟨g, gs, rfl, firstAgain, laterAgain⟩ := List.map_eq_cons_iff.mp printedAgain
    obtain ⟨headF, tailF⟩ := List.forall_mem_cons.mp resolved
    obtain ⟨headG, tailG⟩ := List.forall_mem_cons.mp again
    rw [List.map_cons, List.map_cons, headF.eq_of_text? headG first firstAgain,
      ih tailF tailG later laterAgain]

end Field.Resolved

/-! ## Words of forms -/

theorem Text.joined?_eq_some {separator text : Text} {parts : List (Option Text)}
    (joined : Text.joined? separator parts = some text) :
    ∃ texts : List Text, parts = texts.map some ∧ text = separator.intercalate texts := by
  rw [Text.joined?, Option.ite_none_right_eq_some] at joined
  obtain ⟨all, same⟩ := joined
  refine ⟨parts.filterMap id, ?_, (Option.some.inj same).symm⟩
  rw [List.map_filterMap_some_eq_filter_map_isSome, List.map_id, List.filter_eq_self.mpr]
  exact List.all_eq_true.mp all

/-- A form after resolution: it is canonical and made for its opcode, and each operand is a computed
number or an address. -/
structure Form.Resolved (form : Form) : Prop where
  canonical : form.isPseudo = false
  inClass : form.opcode.instructionClass = form.shape
  operands : ∀ field ∈ form.fields, field.2.Resolved

namespace Form.Resolved

variable {form f g : Form} {text : Text}

theorem suitsOpcode (resolved : form.Resolved) : form.SuitsOpcode := by
  cases form with
  | loadAddress op rd target => exact absurd resolved.canonical (by simp [isPseudo])
  | _ => exact resolved.inClass

/-- Operands after the name of an opcode. -/
theorem consists_operands {name : Text} (isWord : IsWord name)
    {fields : List (String × Field)} (resolved : ∀ field ∈ fields, field.2.Resolved)
    (printed : (Text.joined? ", " (fields.map fun field => field.2.text?)).map
      (fun operands => name ++ " " ++ operands) = some text) :
    ∃ parts : List Text, fields.map (fun field => field.2.text?) = parts.map some ∧
      Consists text (name :: parts) := by
  obtain ⟨operands, joined, rfl⟩ := Option.map_eq_some_iff.mp printed
  obtain ⟨parts, texts, rfl⟩ := Text.joined?_eq_some joined
  refine ⟨parts, texts, ?_⟩
  have words : ∀ part ∈ parts, IsWord part := by
    intro part inside
    have source : some part ∈ fields.map fun field => field.2.text? := by
      rw [texts]
      exact List.mem_map_of_mem inside
    obtain ⟨field, own, printed⟩ := List.mem_map.mp source
    exact (resolved field own).isWord printed
  rw [List.append_assoc]
  exact (Consists.word isWord).append (by decide) (.joined words)

/-- The words of a form: its opcode and the texts of its fields. -/
theorem consists_text (resolved : form.Resolved) (printed : form.text? = some text) :
    ∃ parts : List Text, form.fields.map (fun field => field.2.text?) = parts.map some ∧
      Consists text (form.opcode.name :: parts) := by
  have operands := resolved.operands
  cases form with
  | loadStore op rd offset rbase =>
    obtain ⟨shown, found, rfl⟩ := Option.map_eq_some_iff.mp printed
    refine ⟨[rd.text, shown, rbase.text], by simp [fields, Field.text?, found], ?_⟩
    have offsetWord : IsWord shown :=
      Operand.Resolved.isWord (operands ("offset", .operand offset) (by simp [fields])) found
    have base : Consists (rbase.text ++ ")") [Text.ofString rbase.text] :=
      (Consists.word rbase.isWord_text).append (by decide) .nil
    have brackets := (Consists.word offsetWord).append (by decide : isMark (.char '(') = true) base
    have pair := (Consists.word rd.isWord_text).append (by decide : isMark (.char ',') = true)
      (brackets.cons (by decide : isMark (.char ' ') = true))
    have whole := (Consists.word op.isWord_name).append (by decide : isMark (.char ' ') = true) pair
    simpa [opcode, Text.ofString] using whole
  | simple op =>
    rw [← Option.some.inj printed]
    exact ⟨[], rfl, .word op.isWord_name⟩
  | _ => exact consists_operands (Opcode.isWord_name _) operands printed

/-- The words of the text of a form determine it. -/
theorem eq_of_words (resolved : f.Resolved) (again : g.Resolved) {other : Text}
    (printed : f.text? = some text) (printedAgain : g.text? = some other)
    (same : Text.words text = Text.words other) : f = g := by
  obtain ⟨parts, texts, consists⟩ := resolved.consists_text printed
  obtain ⟨others, textsAgain, consistsAgain⟩ := again.consists_text printedAgain
  rw [consists.words_eq, consistsAgain.words_eq, List.cons.injEq] at same
  have opcode := Opcode.name_injective (Text.ofString_inj.mp same.1)
  obtain rfl := same.2
  exact eq_of_fields resolved.suitsOpcode again.suitsOpcode opcode
    (Field.Resolved.map_eq_of_texts resolved.operands again.operands texts textsAgain)

end Form.Resolved

theorem Form.text_eq_ok_iff {form : Form} {text : Text} :
    form.text = .ok text ↔ form.text? = some text := by
  rw [Form.text]
  cases form.text? <;> simp [written]

/-! ## Lines and entries -/

namespace Image

/-- The words of the instruction in a line of the listing. The instruction stands after the last
colon. A line without a label has no colon, and its first word is the address. A semicolon ends the
instruction. -/
def lineWords (line : Text) : List Text :=
  match Text.splitLast? (.char ':') line with
  | some (_, source) => Text.words (source.takeWhile (· ≠ .char ';'))
  | none => (Text.words (line.takeWhile (· ≠ .char ';'))).tail

theorem labelColumn_cases (label : Option Text) :
    labelColumn label = List.replicate 16 (.char ' ') ∨
      ∃ name count, labelColumn label = name ++ .char ':' :: List.replicate count (.char ' ') := by
  cases label with
  | none => exact .inl (by decide)
  | some name =>
    by_cases empty : name = []
    · subst empty
      exact .inl (by decide)
    · refine .inr ⟨name, 16 - (name ++ ":").length, ?_⟩
      simp [labelColumn, empty, Text.padRight, Text.fill, Text.ofString, Text.ofChars]

/-- After an instruction there may be spaces and a comment, which has no colon. -/
theorem withPseudo_eq (expandedFrom : Option Opcode) (text : Text) :
    ∃ count comment, withPseudo expandedFrom text =
        text ++ List.replicate count (.char ' ') ++ comment ∧
      comment.takeWhile (· ≠ .char ';') = [] ∧ .char ':' ∉ comment := by
  cases expandedFrom with
  | none => exact ⟨0, [], by simp [withPseudo], rfl, by simp⟩
  | some op =>
    have name : .char ':' ∉ Text.ofString op.name := op.isWord_name.not_mem (by decide)
    refine ⟨28 - text.length, "; " ++ op.name, ?_, rfl, ?_⟩
    · simp [withPseudo, Text.padRight, Text.fill, Text.ofString, Text.ofChars]
    · exact List.not_mem_append (by decide) name

variable {text body comment : Text} {ws : List Text}

theorem words_before_comment (consists : Consists body ws)
    (ends : comment.takeWhile (· ≠ .char ';') = []) :
    Text.words ((body ++ comment).takeWhile (· ≠ .char ';')) = ws := by
  have kept : ∀ c ∈ body, decide (c ≠ .char ';') = true := by
    intro c inside
    rw [decide_eq_true_eq]
    rintro rfl
    exact consists.not_mem (by decide) (by decide) inside
  rw [List.takeWhile_append_of_pos kept, ends, List.append_nil, consists.words_eq]

/-- The words of an instruction are found in its line, whatever its label is. -/
theorem lineWords_listingLine (consists : Consists text ws) (digits : Nat) (address : Int)
    (label : Option Text) (expandedFrom : Option Opcode) :
    lineWords (listingLine digits address label (withPseudo expandedFrom text)) = ws := by
  obtain ⟨count, comment, source, ends, colonless⟩ := withPseudo_eq expandedFrom text
  have spaces : Text.ofString "  " = [.char ' ', .char ' '] := rfl
  rw [listingLine, source, spaces]
  have isColumn := Text.isWord_hexPadded digits address
  generalize Text.ofString (Text.hexPadded digits address) = column at isColumn
  have filled := consists.fill count
  generalize text ++ List.replicate count (.char ' ') = shown at filled
  have clean : ∀ {body ws}, Consists body ws → .char ':' ∉ body ++ comment := by
    intro body ws consists
    rw [List.mem_append, not_or]
    exact ⟨consists.not_mem (by decide) (by decide), colonless⟩
  rcases labelColumn_cases label with blank | ⟨name, margin, named⟩
  · -- The line has no colon, so all of it is read, and the address is its first word.
    have body : Consists (column ++ .char ' ' :: (List.replicate 19 (.char ' ') ++ shown))
        ([column] ++ ws) :=
      (Consists.word isColumn).append (by decide) (filled.spaces 19)
    have whole : column ++ [.char ' ', .char ' '] ++ labelColumn label ++ [.char ' ', .char ' '] ++
          (shown ++ comment) =
        column ++ .char ' ' :: (List.replicate 19 (.char ' ') ++ shown) ++ comment := by
      rw [blank]
      simp [List.replicate_succ]
    rw [whole, lineWords, Text.splitLast?_of_not_mem (clean body), words_before_comment body ends]
    rfl
  · have body :
        Consists (List.replicate margin (.char ' ') ++ .char ' ' :: .char ' ' :: shown) ws :=
      ((filled.cons (by decide)).cons (by decide)).spaces margin
    have whole : column ++ [.char ' ', .char ' '] ++ labelColumn label ++ [.char ' ', .char ' '] ++
          (shown ++ comment) =
        (column ++ .char ' ' :: .char ' ' :: name) ++ .char ':' ::
          (List.replicate margin (.char ' ') ++ .char ' ' :: .char ' ' :: shown ++ comment) := by
      rw [named]
      simp
    rw [whole, lineWords, Text.splitLast?_append _ (clean body)]
    exact words_before_comment body ends

variable {i : PlacedInstruction} {form : Form}

theorem instructionLine_words (resolved : form.Resolved) (isForm : i.instruction = .form form)
    {digits : Nat} {line : Text} (shown : instructionLine digits i = .ok line) :
    ∃ text, form.text? = some text ∧ lineWords line = Text.words text := by
  rw [instructionLine, isForm, Instruction.text] at shown
  obtain ⟨text, written, rfl⟩ := Outcome.map_eq_ok_iff.mp shown
  have printed := Form.text_eq_ok_iff.mp written
  obtain ⟨parts, -, consists⟩ := resolved.consists_text printed
  exact ⟨text, printed, by rw [lineWords_listingLine consists, consists.words_eq]⟩

/-- An entry of the document holds the text of its instruction. -/
theorem instructionJson_text (isForm : i.instruction = .form form) {field : Field → Json}
    {entry : List (Text × Json)} (document : instructionJson field i = .ok (.object entry)) :
    ∃ text, form.text? = some text ∧ Json.field? "text" entry = some (.string text) := by
  rw [instructionJson, isForm] at document
  obtain ⟨text, written, same⟩ := Outcome.map_eq_ok_iff.mp document
  cases same
  exact ⟨text, Form.text_eq_ok_iff.mp written, rfl⟩

end Image

/-- Two resolved forms with the same text are the same. So are two instructions with the same line
in listings, or with the same text in their entries, wherever they are placed and whatever their
labels are. -/
theorem Form.text_unambiguous {f g : Form} (resolved : f.Resolved) (again : g.Resolved) :
    (∀ text, f.text = .ok text → g.text = .ok text → f = g) ∧
    ∀ i j : PlacedInstruction, i.instruction = .form f → j.instruction = .form g →
      (∀ m n line, Image.instructionLine m i = .ok line → Image.instructionLine n j = .ok line →
        f = g) ∧
      ∀ a b, Image.instructionJson Image.fieldJson i = .ok (.object a) →
        Image.instructionJson Image.fieldJson j = .ok (.object b) →
        Json.field? "text" a = Json.field? "text" b → f = g := by
  refine ⟨?_, fun i j isF isG => ⟨?_, ?_⟩⟩
  · intro text printed printedAgain
    exact resolved.eq_of_words again (Form.text_eq_ok_iff.mp printed)
      (Form.text_eq_ok_iff.mp printedAgain) rfl
  · intro m n line shown shownAgain
    obtain ⟨text, printed, words⟩ := Image.instructionLine_words resolved isF shown
    obtain ⟨other, printedAgain, wordsAgain⟩ := Image.instructionLine_words again isG shownAgain
    exact resolved.eq_of_words again printed printedAgain (words.symm.trans wordsAgain)
  · intro a b document documentAgain same
    obtain ⟨text, printed, entry⟩ := Image.instructionJson_text isF document
    obtain ⟨other, printedAgain, entryAgain⟩ := Image.instructionJson_text isG documentAgain
    rw [entry, entryAgain, Option.some.injEq, Json.string.injEq] at same
    exact resolved.eq_of_words again printed printedAgain (by rw [same])

/-- A load whose label looks like another instruction with a comment. -/
def PlacedInstruction.disguised : PlacedInstruction :=
  { address := 0x20
    instruction := .form (.loadStore .lw .v0 (.number (-4)) .sp)
    location := none
    label := some "a:  HALT ; b"
    expandedFrom := some .pop }

theorem Form.text_unambiguous_disguised :
    (Form.loadStore .lw .v0 (.number (-4)) .sp).Resolved ∧
    (Form.loadStore .lw .v0 (.number (-4)) .sp).text = .ok "LW $V0, -4($SP)" ∧
    Image.instructionLine 4 .disguised =
      .ok "0020  a:  HALT ; b:     LW $V0, -4($SP)             ; POP" ∧
    ∀ g : Form, g.Resolved →
      (g.text = .ok "LW $V0, -4($SP)" → g = .loadStore .lw .v0 (.number (-4)) .sp) ∧
      ∀ j n, j.instruction = .form g →
        Image.instructionLine n j =
          .ok "0020  a:  HALT ; b:     LW $V0, -4($SP)             ; POP" →
        g = .loadStore .lw .v0 (.number (-4)) .sp := by
  have resolved : (Form.loadStore .lw .v0 (.number (-4)) .sp).Resolved :=
    ⟨rfl, rfl, by simp [Form.fields, Field.Resolved, Operand.Resolved]⟩
  have text : (Form.loadStore .lw .v0 (.number (-4)) .sp).text = .ok "LW $V0, -4($SP)" :=
    Form.text_eq_ok_iff.mpr (by decide +kernel)
  have line : Image.instructionLine 4 .disguised =
      .ok "0020  a:  HALT ; b:     LW $V0, -4($SP)             ; POP" :=
    Outcome.map_eq_ok_iff.mpr ⟨_, text, by decide +kernel⟩
  refine ⟨resolved, text, line, fun g again => ⟨fun printed => ?_, fun j n isG shown => ?_⟩⟩
  · exact ((Form.text_unambiguous resolved again).1 _ text printed).symm
  · exact (((Form.text_unambiguous resolved again).2 .disguised j rfl isG).1 4 n _ line shown).symm

end Assembler
