import Assembler.Text.Basic

/-!
# Terminal control sequences

Messages for people are written without the sequences that set colours and move the cursor: an
escape character, an opening bracket, digits and separators, and a letter.
-/

namespace Assembler.Text

/-- What follows the body of a control sequence. -/
def afterControl? : Text → Option Text
  | .char c :: rest =>
    if c.isAlpha then some rest
    else if c.isDigit || c == ';' || c == '?' then afterControl? rest
    else none
  | _ => none

/-- Drop the control sequences. The fuel bounds the number of code points. -/
def withoutControlsFrom : Nat → Text → Text
  | 0, t => t
  | _ + 1, [] => []
  | fuel + 1, c :: rest =>
    match rest with
    | .char '[' :: body =>
      if c.toNat = 0x1B then
        match afterControl? body with
        | some after => withoutControlsFrom fuel after
        | none => c :: withoutControlsFrom fuel rest
      else c :: withoutControlsFrom fuel rest
    | _ => c :: withoutControlsFrom fuel rest

/-- A text without terminal control sequences. -/
def withoutControls (t : Text) : Text := withoutControlsFrom t.length t

end Assembler.Text
