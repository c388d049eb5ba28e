import GameVm.Bytes.LittleEndian

/-! The 32-bit cyclic redundancy check with reflected polynomial `0xEDB88320`. -/

namespace GameVm.Crc32

def bitStep (crc : UInt32) : UInt32 :=
  if crc &&& 1 = 0 then crc >>> 1 else (crc >>> 1) ^^^ 0xEDB88320

def byteStep (crc : UInt32) (b : UInt8) : UInt32 :=
  Nat.repeat bitStep 8 (crc ^^^ b.toUInt32)

def start : UInt32 := 0xFFFFFFFF

def update (crc : UInt32) (bs : Bytes) : UInt32 := bs.foldl byteStep crc

def ofBytes (bs : Bytes) : UInt32 := ~~~ update start bs

end GameVm.Crc32
