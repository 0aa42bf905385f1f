import Assembler.Text.Basic

/-!
# UTF-8

Bytes to characters, and texts to bytes. Over-long forms, surrogates and code points above U+10FFFF
are refused. A fault names the bytes at which reading stopped: the bytes of the sequence that were
in order, or all bytes up to the end when the text ends inside a sequence. Half of a UTF-16 pair has
no bytes.
-/

namespace Assembler.Text.Utf8

/-! ### Reading -/

/-- Why a byte sequence cannot be read. -/
inductive Reason where
  | startByte
  | continuationByte
  | endOfData
  deriving DecidableEq, Repr

/-- The bytes in question: the first of them, where it stands, and how many there are. -/
structure Fault where
  reason : Reason
  byte : UInt8
  position : Nat
  count : Nat
  deriving DecidableEq, Repr

/-- What a first byte announces: the payload it carries, how many bytes follow, and the range of
the second byte. -/
structure Lead where
  payload : Nat
  following : Nat
  low : UInt8
  high : UInt8

/-- The sequences that a byte may begin. -/
def lead? (b : UInt8) : Option Lead :=
  let n := b.toNat
  if n < 0x80 then some ⟨n, 0, 0x80, 0xBF⟩
  else if n < 0xC2 then none
  else if n < 0xE0 then some ⟨n - 0xC0, 1, 0x80, 0xBF⟩
  else if n < 0xF0 then
    some ⟨n - 0xE0, 2, if n == 0xE0 then 0xA0 else 0x80, if n == 0xED then 0x9F else 0xBF⟩
  else if n < 0xF5 then
    some ⟨n - 0xF0, 3, if n == 0xF0 then 0x90 else 0x80, if n == 0xF4 then 0x8F else 0xBF⟩
  else none

/-- The character of a sequence: `payload` so far, the bytes still to come, and how many bytes were
taken. The result holds the character, or the reason with the number of bytes it concerns. -/
def follow (payload taken : Nat) (low high : UInt8) :
    Nat → List UInt8 → Except (Reason × Nat) Char
  | 0, _ => .ok (Char.ofNat payload)
  | _ + 1, [] => .error (.endOfData, taken)
  | more + 1, b :: rest =>
    if low ≤ b ∧ b ≤ high then
      follow (payload * 64 + (b.toNat - 0x80)) (taken + 1) 0x80 0xBF more rest
    else .error (.continuationByte, taken)

/-- Read the bytes from `position` on; `skip` counts bytes that belong to the character before. -/
def decodeFrom (position skip : Nat) (done : List Char) : List UInt8 → Except Fault (List Char)
  | [] => .ok done.reverse
  | b :: rest =>
    match skip with
    | skip + 1 => decodeFrom (position + 1) skip done rest
    | 0 =>
      match lead? b with
      | none => .error ⟨.startByte, b, position, 1⟩
      | some lead =>
        match follow lead.payload 1 lead.low lead.high lead.following rest with
        | .ok c => decodeFrom (position + 1) lead.following (c :: done) rest
        | .error (reason, count) => .error ⟨reason, b, position, count⟩

/-- The characters of a byte sequence. -/
def decode (bytes : List UInt8) : Except Fault (List Char) := decodeFrom 0 0 [] bytes

/-! ### Writing -/

/-- The halves of pairs that keep a text from being written: the first of them, where it stands, and
how many stand together. -/
structure Unwritable where
  half : Fin 0x800
  position : Nat
  count : Nat
  deriving DecidableEq, Repr

/-- Whether a code point is half of a pair. -/
def isHalf : CodePoint → Bool
  | .char _ => false
  | .surrogate _ => true

/-- The first halves of pairs in a text that starts at `position`. -/
def unwritableFrom? (position : Nat) : Text → Option Unwritable
  | [] => none
  | .char _ :: rest => unwritableFrom? (position + 1) rest
  | .surrogate half :: rest => some ⟨half, position, (rest.takeWhile isHalf).length + 1⟩

/-- The bytes of a code point. -/
def bytesOf : CodePoint → List UInt8
  | .char c => String.utf8EncodeChar c
  | .surrogate _ => []

/-- The bytes of a text, unless there is half of a pair in it. -/
def encode (text : Text) : Except Unwritable (List UInt8) :=
  match unwritableFrom? 0 text with
  | some fault => .error fault
  | none => .ok (text.flatMap bytesOf)

end Assembler.Text.Utf8
