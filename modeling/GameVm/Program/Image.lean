import GameVm.Program.Check
import GameVm.Program.Decode
import Std.Data.HashMap

/-! Program images: checked contents with their symbols indexed. -/

namespace GameVm

def firstPositions {κ : Type} [BEq κ] [Hashable κ] (keys : List κ) : Std.HashMap κ Nat :=
  (keys.foldl (fun (index, n) key => (index.insertIfNew key n, n + 1)) (∅, 0)).1

structure Image where
  parts : Parts
  functionNames : Array String
  functionIndex : Std.HashMap String Nat
  globalIndex : Std.HashMap String Nat
  cellIndex : Std.HashMap UInt16 Nat
  fieldIndex : Std.HashMap String Nat

namespace Image

def ofParts (p : Parts) : Image :=
  let names := p.functions.map (p.nameAt ·.name)
  { parts := p
    functionNames := names
    functionIndex := firstPositions ("" :: names.toList.drop 1)
    globalIndex := firstPositions (p.globalDefs.toList.map (p.nameAt ·.name))
    cellIndex := firstPositions (p.globalDefs.toList.map (·.offset))
    fieldIndex := firstPositions (p.fieldDefs.toList.map (p.nameAt ·.name)) }

def decode (bs : Bytes) : Except FormatError Image := do
  let parts ← Parts.decode bs
  parts.check
  return ofParts parts

def encode (image : Image) : Bytes := image.parts.encode

def checksum (image : Image) : UInt32 := image.parts.checksum

def function? (image : Image) (index : Nat) : Option FunctionEntry := image.parts.functions[index]?

/-- The name of a function; a fixed text for a number that is no function. -/
def functionName (image : Image) (index : Nat) : String :=
  image.functionNames[index]?.getD "<invalid>"

/-- The first function with a name; the null function and unnamed ones are not found. -/
def findFunction? (image : Image) (name : String) : Option Nat :=
  if name.isEmpty then none else image.functionIndex[name]?

def findGlobal? (image : Image) (name : String) : Option Definition :=
  if name.isEmpty then none
  else image.globalIndex[name]?.bind (image.parts.globalDefs[·]?)

def globalDefAt? (image : Image) (offset : UInt16) : Option Definition :=
  image.cellIndex[offset]?.bind (image.parts.globalDefs[·]?)

def findField? (image : Image) (name : String) : Option Definition :=
  if name.isEmpty then none
  else image.fieldIndex[name]?.bind (image.parts.fieldDefs[·]?)

def builtins (image : Image) : List (Nat × String) :=
  (image.parts.functions.toList.zipIdx.filter (·.1.isBuiltin)).map
    fun (_, index) => (index, image.functionName index)

end Image

end GameVm
