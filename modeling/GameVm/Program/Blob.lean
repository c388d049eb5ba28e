import GameVm.Bytes.LittleEndian

/-! Zero-terminated strings inside a block of bytes. -/

namespace GameVm

abbrev Blob := Array UInt8

namespace Blob

def zeroFrom (blob : Blob) (i : Nat) : Nat :=
  if h : i < blob.size then
    if blob[i] = 0 then i else zeroFrom blob (i + 1)
  else i
termination_by blob.size - i

def stringFrom (blob : Blob) (i : Nat) : Bytes :=
  (blob.extract i (zeroFrom blob i)).toList

/-- Look for a terminated string equal to `text`; `seen` holds the bytes since position `start`,
last one first. -/
def findFrom (text : Bytes) (start : Nat) (seen : Bytes) : Bytes → Option Nat
  | [] => none
  | b :: bs =>
    if b = 0 then
      if seen.reverse = text then some start else findFrom text (start + seen.length + 1) [] bs
    else findFrom text start (b :: seen) bs

def find? (blob : Blob) (text : Bytes) : Option Nat := findFrom text 0 [] blob.toList

end Blob

end GameVm
