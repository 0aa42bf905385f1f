import Assembler.Text.Basic

/-!
# The order of texts
-/

namespace Assembler.Text

/-- Texts are ordered by their first differing code point, and a beginning of a text stands
before it. -/
def precedes : Text → Text → Bool
  | [], _ => true
  | _ :: _, [] => false
  | a :: as, b :: bs =>
    if a.toNat < b.toNat then true
    else if b.toNat < a.toNat then false
    else precedes as bs

end Assembler.Text
