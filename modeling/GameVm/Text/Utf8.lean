import GameVm.Bytes.LittleEndian

/-! UTF-8 text: strict decoding, and decoding that marks what cannot be decoded. -/

namespace GameVm.Utf8

/-- A character whose lead byte has been read: the bits so far, how many bytes are missing after
the next one, and the range the next one has to lie in. -/
structure Pending where
  bits : Nat
  more : Nat
  low : UInt8
  high : UInt8

def lead? (b : UInt8) : Option Pending :=
  if 0xC2 ≤ b && b ≤ 0xDF then some ⟨b.toNat - 0xC0, 0, 0x80, 0xBF⟩
  else if b = 0xE0 then some ⟨0, 1, 0xA0, 0xBF⟩
  else if b = 0xED then some ⟨0xD, 1, 0x80, 0x9F⟩
  else if 0xE1 ≤ b && b ≤ 0xEF then some ⟨b.toNat - 0xE0, 1, 0x80, 0xBF⟩
  else if b = 0xF0 then some ⟨0, 2, 0x90, 0xBF⟩
  else if 0xF1 ≤ b && b ≤ 0xF3 then some ⟨b.toNat - 0xF0, 2, 0x80, 0xBF⟩
  else if b = 0xF4 then some ⟨4, 2, 0x80, 0x8F⟩
  else none

/-- Decode character by character. A `none` stands for a longest run of bytes that begins a
character without completing it, or for one byte that begins none. -/
def scan : Option Pending → Bytes → List (Option Char)
  | none, [] => []
  | some _, [] => [none]
  | none, b :: bs =>
    if b < 0x80 then some (Char.ofNat b.toNat) :: scan none bs
    else match lead? b with
      | none => none :: scan none bs
      | some p => scan (some p) bs
  | some p, b :: bs =>
    if p.low ≤ b && b ≤ p.high then
      let bits := p.bits * 64 + (b.toNat - 0x80)
      match p.more with
      | 0 => some (Char.ofNat bits) :: scan none bs
      | more + 1 => scan (some ⟨bits, more, 0x80, 0xBF⟩) bs
    else if b < 0x80 then none :: some (Char.ofNat b.toNat) :: scan none bs
    else match lead? b with
      | none => none :: none :: scan none bs
      | some q => none :: scan (some q) bs

def decode? (bs : Bytes) : Option String :=
  ((scan none bs).mapM id).map String.ofList

def decodeLossy (bs : Bytes) : String :=
  String.ofList ((scan none bs).map (·.getD '\uFFFD'))

def encode (s : String) : Bytes := s.toUTF8.toList

end GameVm.Utf8
