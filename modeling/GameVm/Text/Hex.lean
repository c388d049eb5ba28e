import GameVm.Bytes.LittleEndian

/-! Bytes as pairs of hexadecimal digits. -/

namespace GameVm.Hex

def digit (n : UInt8) : Char := Char.ofNat (if n < 10 then 48 + n.toNat else 87 + n.toNat)

def digitValue (c : Char) : UInt8 :=
  if c.isDigit then c.toUInt8 - '0'.toUInt8 else c.toUInt8 - 'a'.toUInt8 + 10

def encode (bs : Bytes) : String :=
  String.ofList (bs.flatMap fun (b : UInt8) => [digit (b >>> 4), digit (b &&& 15)])

def decodeFrom (done : Array UInt8) : List Char → Bytes
  | a :: b :: rest => decodeFrom (done.push (digitValue a * 16 + digitValue b)) rest
  | _ => done.toList

def decode (s : String) : Bytes := decodeFrom #[] s.toList

end GameVm.Hex
