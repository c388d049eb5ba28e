import GameVm.Bytes.Crc32
import GameVm.Float.Binary32
import GameVm.Program.Blob
import GameVm.Program.Definition
import GameVm.Program.FunctionEntry
import GameVm.Program.Statement

/-! The contents of a program image and their stored form. -/

namespace GameVm

structure Parts where
  /-- Cells the program needs in each entity record. -/
  entityCells : UInt32
  statements : Array Statement
  globalDefs : Array Definition
  fieldDefs : Array Definition
  functions : Array FunctionEntry
  strings : Blob
  globals : Array Cell
  deriving DecidableEq

namespace Parts

def magic : Bytes := [0x50, 0x52, 0x47, 0x53]

def version : UInt32 := 7

def headerSize : Nat := 64

def definitionBytes (p : Parts) : Bytes :=
  p.globalDefs.toList.flatMap Definition.encode ++ p.fieldDefs.toList.flatMap Definition.encode

/-- The check value over both definition tables. -/
def checksum (p : Parts) : UInt32 := Crc32.ofBytes p.definitionBytes

/-- The bytes of each section with the number of its records, in the order of the header. -/
def sections (p : Parts) : List (Bytes × Nat) := [
  (p.statements.toList.flatMap Statement.encode, p.statements.size),
  (p.globalDefs.toList.flatMap Definition.encode, p.globalDefs.size),
  (p.fieldDefs.toList.flatMap Definition.encode, p.fieldDefs.size),
  (p.functions.toList.flatMap FunctionEntry.encode, p.functions.size),
  (p.strings.toList, p.strings.size),
  (p.globals.toList.flatMap Bytes.ofUInt32, p.globals.size)]

def sectionTable (offset : Nat) : List (Bytes × Nat) → Bytes
  | [] => []
  | (data, count) :: rest =>
    Bytes.ofNat 4 offset ++ Bytes.ofNat 4 count ++ sectionTable (offset + data.length) rest

/-- The stored form: header, then the sections without gaps. -/
def encode (p : Parts) : Bytes :=
  magic ++ Bytes.ofUInt32 version ++ Bytes.ofUInt32 p.checksum ++ Bytes.ofUInt32 p.entityCells ++
    sectionTable headerSize p.sections ++ p.sections.flatMap Prod.fst

def stringAt? (p : Parts) (offset : Int32) : Option Bytes :=
  if offset < 0 then none
  else if p.strings.size < offset.toInt.toNat then none
  else some (p.strings.stringFrom offset.toInt.toNat)

end Parts

end GameVm
