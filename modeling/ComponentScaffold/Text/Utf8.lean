/-! # Decoding bytes

Text from bytes that need not be well-formed UTF-8. `decodeLossy` writes the replacement character
once for each maximal run of bytes that starts a character and cannot be continued.
-/

namespace ComponentScaffold.Text

/-- The replacement character. -/
def replacement : Char := '\uFFFD'

/-- The shape of a character of several bytes, as its first byte announces it. -/
structure LeadByte where
  /-- How many bytes follow the first. -/
  following : Nat
  /-- The least second byte. -/
  low : UInt8
  /-- The greatest second byte. -/
  high : UInt8
  /-- The bits of the character that the first byte carries. -/
  bits : Nat

/-- What a byte announces when it starts a character of several bytes. -/
def LeadByte.of? (b : UInt8) : Option LeadByte :=
  if 0xC2 ≤ b && b ≤ 0xDF then some ⟨1, 0x80, 0xBF, b.toNat - 0xC0⟩
  else if b == 0xE0 then some ⟨2, 0xA0, 0xBF, 0⟩
  else if b == 0xED then some ⟨2, 0x80, 0x9F, 0xD⟩
  else if 0xE1 ≤ b && b ≤ 0xEF then some ⟨2, 0x80, 0xBF, b.toNat - 0xE0⟩
  else if b == 0xF0 then some ⟨3, 0x90, 0xBF, 0⟩
  else if b == 0xF4 then some ⟨3, 0x80, 0x8F, 4⟩
  else if 0xF1 ≤ b && b ≤ 0xF3 then some ⟨3, 0x80, 0xBF, b.toNat - 0xF0⟩
  else none

/-- A character that has begun: how many bytes it lacks, which bytes may come next, its bits so far. -/
abbrev Unfinished := LeadByte

/-- The decoder's view of the bytes read so far: between characters, or inside one. -/
def decodeFrom : Option Unfinished → List UInt8 → List Char
  | none, [] => []
  | some _, [] => [replacement]
  | none, b :: rest =>
    if b < 0x80 then Char.ofNat b.toNat :: decodeFrom none rest
    else match LeadByte.of? b with
      | some lead => decodeFrom (some lead) rest
      | none => replacement :: decodeFrom none rest
  | some lead, b :: rest =>
    if lead.low ≤ b && b ≤ lead.high then
      let bits := lead.bits * 64 + (b.toNat - 0x80)
      if lead.following ≤ 1 then Char.ofNat bits :: decodeFrom none rest
      else decodeFrom (some ⟨lead.following - 1, 0x80, 0xBF, bits⟩) rest
    -- the character breaks off here, and `b` starts afresh
    else if b < 0x80 then replacement :: Char.ofNat b.toNat :: decodeFrom none rest
    else match LeadByte.of? b with
      | some next => replacement :: decodeFrom (some next) rest
      | none => replacement :: replacement :: decodeFrom none rest

/-- The text that bytes stand for, with malformed parts replaced. -/
def decodeLossy (bytes : List UInt8) : List Char := decodeFrom none bytes

end ComponentScaffold.Text
