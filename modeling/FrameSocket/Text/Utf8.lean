import FrameSocket.Bytes

/-!
# Lossy UTF-8 decoding

Octets that are not well-formed UTF-8 are shown as U+FFFD, one replacement
character for each *maximal ill-formed subpart*: the longest run of octets that
some well-formed character starts with, or a single octet that starts none.

The decoder reads one octet at a time.  Between characters it holds nothing;
inside a character it holds how many octets are still owed, the range in which
the next one has to lie, and the bits gathered so far (`Utf8.Pending`).
-/

namespace FrameSocket.Utf8

/-- U+FFFD, shown in place of octets that are no UTF-8. -/
def replacement : Char := '\ufffd'

/-- A character of which at least one octet has been read and at least one is owed. -/
structure Pending where
  /-- Octets still owed. -/
  owed : Nat
  /-- The least octet that may come next. -/
  low : UInt8
  /-- The greatest octet that may come next. -/
  high : UInt8
  /-- The code point's bits read so far. -/
  bits : Nat
  deriving DecidableEq, Repr

/-- Reads an octet that stands between characters: the characters it completes,
and the character it opens. -/
def openChar (b : UInt8) : List Char × Option Pending :=
  if b < 0x80 then ([Char.ofNat b.toNat], none)
  else if b < 0xC2 then ([replacement], none)
  else if b < 0xE0 then ([], some ⟨1, 0x80, 0xBF, b.toNat - 0xC0⟩)
  else if b = 0xE0 then ([], some ⟨2, 0xA0, 0xBF, 0⟩)
  else if b = 0xED then ([], some ⟨2, 0x80, 0x9F, 0xD⟩)
  else if b < 0xF0 then ([], some ⟨2, 0x80, 0xBF, b.toNat - 0xE0⟩)
  else if b = 0xF0 then ([], some ⟨3, 0x90, 0xBF, 0⟩)
  else if b < 0xF4 then ([], some ⟨3, 0x80, 0xBF, b.toNat - 0xF0⟩)
  else if b = 0xF4 then ([], some ⟨3, 0x80, 0x8F, 4⟩)
  else ([replacement], none)

/-- Reads one octet.  One that does not fit the character in progress ends that
character as ill-formed, and is then read afresh. -/
def readByte : Option Pending → UInt8 → List Char × Option Pending
  | none, b => openChar b
  | some p, b =>
    if p.low ≤ b ∧ b ≤ p.high then
      let bits := p.bits * 64 + (b.toNat - 0x80)
      if p.owed ≤ 1 then ([Char.ofNat bits], none)
      else ([], some ⟨p.owed - 1, 0x80, 0xBF, bits⟩)
    else
      let (shown, next) := openChar b
      (replacement :: shown, next)

/-- The characters of `bytes`, read on from the state between two octets. -/
def chars : Option Pending → Bytes → List Char
  | none, [] => []
  | some _, [] => [replacement]
  | state, b :: bytes =>
    let (shown, next) := readByte state b
    shown ++ chars next bytes

/-- The text of `bytes`, with U+FFFD for what is no UTF-8. -/
def decodeLossy (bytes : Bytes) : String :=
  String.ofList (chars none bytes)

end FrameSocket.Utf8
