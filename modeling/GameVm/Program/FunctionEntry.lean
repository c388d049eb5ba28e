import GameVm.Bytes.LittleEndian
import GameVm.Program.Slots

/-! Entries of the function table. -/

namespace GameVm

structure FunctionEntry where
  /-- First statement; a negative number declares a builtin. -/
  first : Int32 := 0
  /-- First cell of the locals window; the parameters lead it. -/
  parmStart : UInt32 := 0
  locals : UInt32 := 0
  profile : UInt32 := 0
  name : Int32 := 0
  file : Int32 := 0
  numParms : UInt32 := 0
  parmSizes : Vector UInt8 8 := Vector.replicate 8 0
  deriving DecidableEq, Repr

namespace FunctionEntry

def size : Nat := 36

def isBuiltin (f : FunctionEntry) : Bool := f.first < 0

def parms (f : FunctionEntry) : List Nat :=
  (f.parmSizes.toList.take f.numParms.toNat).map UInt8.toNat

def parmCells (f : FunctionEntry) : Nat := f.parms.foldr (· + ·) 0

def encode (f : FunctionEntry) : Bytes :=
  Bytes.ofInt32 f.first ++ Bytes.ofUInt32 f.parmStart ++ Bytes.ofUInt32 f.locals ++
    Bytes.ofUInt32 f.profile ++ Bytes.ofInt32 f.name ++ Bytes.ofInt32 f.file ++
    Bytes.ofUInt32 f.numParms ++ f.parmSizes.toList

def decode (bs : Bytes) : FunctionEntry where
  first := bs.int32At 0
  parmStart := bs.uint32At 4
  locals := bs.uint32At 8
  profile := bs.uint32At 12
  name := bs.int32At 16
  file := bs.int32At 20
  numParms := bs.uint32At 24
  parmSizes := Vector.ofFn fun i => bs.getD (28 + i) 0

end FunctionEntry

end GameVm
