/-!
# Bytes as text

Every sequence of bytes can be shown as text: what is no UTF-8 is replaced by the mark U+FFFD, one mark for
each longest piece that starts a character but does not complete one.
-/

namespace BatchRunner.Text

/-- How a byte can start a character: how many bytes follow it, and the range of the first of them. -/
structure Lead where
  following : Nat
  low : Nat
  high : Nat
  deriving Repr

/-- What a byte starts, if it starts a character of several bytes. -/
def lead? (b : Nat) : Option Lead :=
  if 0xC2 ≤ b ∧ b ≤ 0xDF then some ⟨1, 0x80, 0xBF⟩
  else if b = 0xE0 then some ⟨2, 0xA0, 0xBF⟩
  else if b = 0xED then some ⟨2, 0x80, 0x9F⟩
  else if 0xE1 ≤ b ∧ b ≤ 0xEF then some ⟨2, 0x80, 0xBF⟩
  else if b = 0xF0 then some ⟨3, 0x90, 0xBF⟩
  else if b = 0xF4 then some ⟨3, 0x80, 0x8F⟩
  else if 0xF1 ≤ b ∧ b ≤ 0xF3 then some ⟨3, 0x80, 0xBF⟩
  else none

/-- The mark that stands for bytes that are no text. -/
def replacement : Char := '\uFFFD'

/-- The bytes that continue a character, of which `count` are wanted, the first in a range: the number that
they complete, or nothing, and what is left behind them. -/
def continuation (n : Nat) : Nat → Nat → Nat → List UInt8 → Option Nat × List UInt8
  | 0, _, _, bytes => (some n, bytes)
  | _ + 1, _, _, [] => (none, [])
  | count + 1, low, high, b :: bytes =>
    if low ≤ b.toNat ∧ b.toNat ≤ high then continuation (n * 64 + b.toNat % 64) count 0x80 0xBF bytes
    else (none, b :: bytes)

/-- The bits of a first byte that belong to the character. -/
def leadBits (b following : Nat) : Nat :=
  if following = 1 then b % 32 else if following = 2 then b % 16 else b % 8

/-- The characters of bytes, with marks for what is no text. The fuel bounds the number of characters. -/
def decodeBytes : Nat → List UInt8 → List Char
  | 0, _ => []
  | _, [] => []
  | fuel + 1, b :: bytes =>
    if b.toNat < 0x80 then Char.ofNat b.toNat :: decodeBytes fuel bytes
    else match lead? b.toNat with
      | none => replacement :: decodeBytes fuel bytes
      | some lead =>
        match continuation (leadBits b.toNat lead.following) lead.following lead.low lead.high bytes with
        | (some n, rest) => Char.ofNat n :: decodeBytes fuel rest
        | (none, rest) => replacement :: decodeBytes fuel rest

/-- Bytes as text; bytes that are no text are replaced by marks. -/
def ofBytes (bytes : ByteArray) : String :=
  match String.fromUTF8? bytes with
  | some text => text
  | none => String.ofList (decodeBytes bytes.size bytes.toList)

end BatchRunner.Text
