import GameVm.Program.FormatError
import GameVm.Program.Parts

/-! Reading the stored form of an image. -/

namespace GameVm.Parts

def sectionEntry (part : Section) : Nat := 16 + part.ctorIdx * 8

/-- Where the records of a section start, and how many there are. They have to lie inside the image
and, unless there are none, behind the header. -/
def locate (bs : Bytes) (part : Section) (record : Nat) : Except FormatError (Nat × Nat) :=
  let offset := bs.uint32At (sectionEntry part)
  let count := bs.uint32At (sectionEntry part + 4)
  if offset.toNat < headerSize ∧ 0 < count then .error (.sectionOutOfBounds part offset count)
  else if bs.length < offset.toNat + count.toNat * record then
    .error (.sectionOutOfBounds part offset count)
  else .ok (offset.toNat, count.toNat)

def readRecords {α : Type} (size : Nat) (read : Nat → Bytes → Except FormatError α) :
    Nat → Nat → Array α → Bytes → Except FormatError (Array α)
  | 0, _, done, _ => .ok done
  | count + 1, index, done, bs => do
    let a ← read index (bs.take size)
    readRecords size read count (index + 1) (done.push a) (bs.drop size)

def readSection {α : Type} (bs : Bytes) (part : Section) (size : Nat)
    (read : Nat → Bytes → Except FormatError α) : Except FormatError (Array α) := do
  let (start, count) ← locate bs part size
  readRecords size read count 0 #[] (bs.drop start)

def readStatement (index : Nat) (bs : Bytes) : Except FormatError Statement :=
  (Statement.decode bs).mapError (.invalidOpcode index)

def readDefinition (table : SymbolKind) (index : Nat) (bs : Bytes) :
    Except FormatError Definition :=
  (Definition.decode bs).mapError (.invalidTypeTag table index)

def readParts (bs : Bytes) : Except FormatError Parts := do
  let statements ← readSection bs .statements Statement.size readStatement
  let globalDefs ← readSection bs .globalDefs Definition.size (readDefinition .global)
  let fieldDefs ← readSection bs .fieldDefs Definition.size (readDefinition .field)
  let functions ← readSection bs .functions FunctionEntry.size
    fun _ record => .ok (FunctionEntry.decode record)
  let (start, count) ← locate bs .strings 1
  let globals ← readSection bs .globals 4 fun _ record => .ok (record.uint32At 0)
  return {
    entityCells := bs.uint32At 12, statements, globalDefs, fieldDefs, functions,
    strings := ((bs.drop start).take count).toArray, globals }

/-- Read an image without checking its contents: header, sections, check value. -/
def decode (bs : Bytes) : Except FormatError Parts := do
  if bs.length < headerSize then throw .unexpectedEnd
  if bs.take 4 ≠ magic then throw .invalidMagic
  if bs.uint32At 4 ≠ version then throw (.unsupportedVersion (bs.uint32At 4))
  let parts ← readParts bs
  if parts.checksum ≠ bs.uint32At 8 then
    throw (.checksumMismatch (bs.uint32At 8) parts.checksum)
  return parts

end GameVm.Parts
