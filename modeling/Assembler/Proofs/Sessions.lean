import Assembler.Assembly
import Assembler.Proofs.Outcome
import Mathlib.Data.List.Induction

/-!
# Sessions

A session is used by calls that bring a program along, or a file in which one should be found.
After any history of calls the session holds the image of the last call that got as far as a
program, if this call succeeded. A call whose file cannot be read leaves the session as it was, so
what can be read from the session then belongs to an earlier call.
-/

namespace Assembler.Session

/-! ## Histories -/

/-- One use of a session: a program, or a file by its path and its bytes, if it exists. -/
inductive Call where
  | program (p : Program)
  | file (path : String) (bytes : Option (List UInt8))

namespace Call

/-- The program that a call brings along. -/
def loaded : Call → Except Error Program
  | .program p => .ok p
  | .file path (some bytes) => Program.ofFile path bytes
  | .file path none => .error (.fault (.missingFile path))

/-- Whether a call gets as far as a program. -/
def loads (c : Call) : Bool := c.loaded.isOk

/-- How a call ends. -/
def outcome (config : Config) (c : Call) : Except Error Image :=
  match c.loaded with
  | .ok p => Assembler.assemble p config
  | .error e => .error e

end Call

/-- Carry out a call. -/
def call (s : Session) : Call → Session × Except Error Image
  | .program p => s.assemble p
  | .file path bytes => s.assembleFile path bytes

/-- A session after some calls, with the result of the last of them. -/
def run (config : Config) (calls : List Call) : Session × Option (Except Error Image) :=
  calls.foldl (fun state c => ((state.1.call c).1, some (state.1.call c).2)) ({ config }, none)

/-- The image of the last call that got as far as a program, if this call succeeded. -/
def kept (config : Config) (calls : List Call) : Option Image :=
  (calls.reverse.find? Call.loads).bind fun c => (c.outcome config).toOption

/-! ## One call -/

theorem assemble_eq (s : Session) (p : Program) :
    s.assemble p =
      ({ s with image := (Assembler.assemble p s.config).toOption },
        Assembler.assemble p s.config) := by
  unfold assemble
  cases Assembler.assemble p s.config <;> rfl

theorem call_eq_assembleLoaded (s : Session) (c : Call) :
    s.call c = s.assembleLoaded c.loaded := by
  cases c with
  | program p => rfl
  | file path bytes => cases bytes <;> rfl

/-- A call that fails before there is a program changes nothing. Any other call leaves its own
image, or none. -/
theorem call_eq (s : Session) (c : Call) :
    s.call c =
      ({ s with image := if c.loads then (c.outcome s.config).toOption else s.image },
        c.outcome s.config) := by
  rw [call_eq_assembleLoaded]
  unfold Call.loads Call.outcome
  cases c.loaded with
  | error e => rfl
  | ok p => exact s.assemble_eq p

theorem kept_append (config : Config) (before : List Call) (last : Call) :
    kept config (before ++ [last]) =
      if last.loads then (last.outcome config).toOption else kept config before := by
  unfold kept
  rw [List.reverse_append, List.reverse_singleton, List.singleton_append, List.find?_cons]
  cases last.loads <;> rfl

/-! ## All calls -/

/-- After any history, the session holds the image of the last call that got as far as a program,
and the last result is that of the last call. -/
theorem run_eq (config : Config) (calls : List Call) :
    run config calls =
      ({ config, image := kept config calls }, calls.getLast?.map (Call.outcome config)) := by
  induction calls using List.reverseRecOn with
  | nil => rfl
  | append_singleton before last ih =>
    have step : run config (before ++ [last]) =
        (((run config before).1.call last).1, some ((run config before).1.call last).2) := by
      unfold run
      rw [List.foldl_append]
      rfl
    rw [step, ih, call_eq, kept_append, List.getLast?_append]
    rfl

/-! ## What is read from a session -/

/-- Everything that is read from a session is read from one image. -/
structure Shows (s : Session) (image : Image) : Prop where
  current : s.current = .ok image
  symbols : s.symbols = .ok image.symbols.addresses
  listing : s.listing = image.listing
  imageText : s.imageText = image.fileText
  symbolText : s.symbolText = .ok image.symbolListing

/-- Nothing can be read from a session, since no program has been assembled. -/
structure Blank (s : Session) : Prop where
  current : s.current = .error (.located none .nothingAssembled)
  symbols : s.symbols = .error (.located none .nothingAssembled)
  listing : s.listing = .error (.located none .nothingAssembled)
  imageText : s.imageText = .error (.located none .nothingAssembled)
  symbolText : s.symbolText = .error (.located none .nothingAssembled)

example : (Error.located none .nothingAssembled).text = "error: no program has been assembled" := by
  decide

theorem current_eq_ok_iff {s : Session} {image : Image} :
    s.current = .ok image ↔ s.image = some image := by
  unfold current
  cases s.image <;> simp

theorem shows_iff {s : Session} {image : Image} : s.Shows image ↔ s.image = some image := by
  constructor
  · intro shown
    exact current_eq_ok_iff.mp shown.current
  · intro held
    have current := current_eq_ok_iff.mpr held
    refine ⟨current, ?_, ?_, ?_, ?_⟩
    · rw [symbols, current]
      rfl
    · rw [listing, current]
    · rw [imageText, current]
    · rw [symbolText, current]
      rfl

theorem blank_iff {s : Session} : s.Blank ↔ s.image = none := by
  constructor
  · intro blank
    cases held : s.image with
    | none => rfl
    | some image =>
      have current := current_eq_ok_iff.mpr held
      rw [blank.current] at current
      cases current
  · intro empty
    have current : s.current = .error (.located none .nothingAssembled) := by
      rw [Session.current, empty]
    refine ⟨current, ?_, ?_, ?_, ?_⟩
    · rw [symbols, current]
      rfl
    · rw [listing, current]
    · rw [imageText, current]
    · rw [symbolText, current]
      rfl

/-- A session shows the image of the last call, or nothing if this call failed or there was
none. -/
def Fresh (config : Config) (calls : List Call) : Prop :=
  match run config calls with
  | (s, some (.ok image)) => s.Shows image
  | (s, _) => s.Blank

/-- The last call got no program, and the image of a call before it is still there. -/
def Stale (config : Config) (calls : List Call) : Prop :=
  ∃ before last image, calls = before ++ [last] ∧ last.loads = false ∧
    kept config before = some image

theorem outcome_of_loads_eq_false (config : Config) {c : Call} (unread : c.loads = false) :
    ∃ e, c.outcome config = .error e := by
  unfold Call.loads at unread
  unfold Call.outcome
  cases loaded : c.loaded with
  | ok program =>
    rw [loaded] at unread
    cases unread
  | error e => exact ⟨e, rfl⟩

/-- A history ends with a fresh session or with a stale one. -/
theorem fresh_iff (config : Config) (calls : List Call) :
    Fresh config calls ↔ ¬ Stale config calls := by
  unfold Fresh Stale
  rw [run_eq]
  rcases List.eq_nil_or_concat calls with rfl | ⟨before, last, rfl⟩
  · have blank : (Session.mk config (kept config [])).Blank := blank_iff.mpr rfl
    simp [blank]
  · rw [List.concat_eq_append]
    simp only [List.getLast?_append, List.getLast?_singleton, Option.some_or, Option.map_some,
      kept_append, List.append_singleton_inj]
    cases loads : last.loads with
    | true =>
      -- The call leaves its own image, or none.
      have notStale : ¬ ∃ earlier call image, (before = earlier ∧ last = call) ∧
          call.loads = false ∧ kept config earlier = some image := by
        rintro ⟨earlier, call, image, ⟨rfl, rfl⟩, unread, -⟩
        rw [loads] at unread
        cases unread
      simp only [notStale, not_false_eq_true, iff_true, if_true]
      cases result : last.outcome config with
      | ok image => exact shows_iff.mpr rfl
      | error e => exact blank_iff.mpr rfl
    | false =>
      -- The session is as it was, so it has to have been without an image.
      obtain ⟨e, failed⟩ := outcome_of_loads_eq_false config loads
      simp only [failed, Bool.false_eq_true, if_false, blank_iff]
      constructor
      · rintro empty ⟨earlier, call, image, ⟨rfl, rfl⟩, -, held⟩
        rw [empty] at held
        cases held
      · intro notStale
        cases held : kept config before with
        | none => rfl
        | some image => exact absurd ⟨before, last, image, ⟨rfl, rfl⟩, loads, held⟩ notStale

/-- After any history of calls a session shows the image of the last call that got as far as a
program, or nothing if this call failed or there was none. So it shows the result of the last call,
unless that call brought no program and an earlier one left an image. -/
theorem run_shows (config : Config) (calls : List Call) :
    (match kept config calls with
      | some image => (run config calls).1.Shows image
      | none => (run config calls).1.Blank) ∧
    (Fresh config calls ↔ ¬ Stale config calls) := by
  refine ⟨?_, fresh_iff config calls⟩
  rw [run_eq]
  cases held : kept config calls with
  | some image => exact shows_iff.mpr rfl
  | none => exact blank_iff.mpr rfl

/-- The image of an empty program is still shown after a file that holds no document. -/
theorem not_fresh_after_unreadable_file :
    ¬ Fresh .standard [.program {}, .file "input.json" (some "\x7b".toUTF8.toList)] := by
  rw [fresh_iff, not_not]
  exact ⟨[.program {}], _, _, rfl, by decide +kernel, rfl⟩

end Assembler.Session
