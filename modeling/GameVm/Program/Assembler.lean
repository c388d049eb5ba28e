import GameVm.Program.Image

/-! An assembler: lays out globals, fields, functions and statements of a program. -/

namespace GameVm

/-- A declared field: its offset in entity records and the global that holds this offset. -/
structure FieldRef where
  field : UInt32
  global : UInt16
  type : ValueType

/-- A declared function: its number, the global that holds this number, and the cells of its
parameters and locals. -/
structure FunctionRef where
  index : Nat
  handle : UInt16
  params : List UInt16
  locals : List UInt16

structure Assembler where
  parts : Parts
  interned : Std.HashMap Bytes Int32
  builtinCount : Nat

/-- Steps of an assembler. A step that cannot be done answers `none` and changes nothing. -/
abbrev Assemble (α : Type) := StateM Assembler α

namespace Assembler

def empty : Assembler where
  parts := {
    entityCells := 0
    statements := #[⟨.done, 0, 0, 0⟩]
    globalDefs := #[]
    fieldDefs := #[]
    functions := #[{}]
    strings := #[0]
    globals := Array.replicate Slots.reserved 0 }
  interned := Std.HashMap.emptyWithCapacity.insert [] 0
  builtinCount := 0

def string (s : String) : Assemble Int32 := fun asm =>
  let bytes := Utf8.encode s
  match asm.interned[bytes]? with
  | some offset => (offset, asm)
  | none =>
    let offset := Int32.ofNat asm.parts.strings.size
    (offset, { asm with
      parts := { asm.parts with strings := (asm.parts.strings ++ bytes).push 0 }
      interned := asm.interned.insert bytes offset })

/-- Append zero cells to the globals; cell numbers wrap after 65535. -/
def alloc (cells : Nat) : Assemble UInt16 := fun asm =>
  (UInt16.ofNat asm.parts.globals.size,
    { asm with parts := { asm.parts with
      globals := asm.parts.globals ++ List.replicate cells (0 : Cell) } })

def put (cell : UInt16) (bits : Cell) : Assemble Unit := fun asm =>
  ((), { asm with
    parts := { asm.parts with globals := asm.parts.globals.setIfInBounds cell.toNat bits } })

def setInitial (cell : UInt16) (bits : Cell) : Assemble (Option Unit) := do
  if cell.toNat < (← get).parts.globals.size then
    put cell bits
    return some ()
  else return none

def defineGlobal (name : String) (type : ValueType) (save : Bool) (cell : UInt16) :
    Assemble Unit := do
  let name ← string name
  modify fun asm => { asm with
    parts := { asm.parts with globalDefs := asm.parts.globalDefs.push ⟨type, save, cell, name⟩ } }

def global (name : String) (type : ValueType) (save : Bool) : Assemble UInt16 := do
  let cell ← alloc type.cells
  defineGlobal name type save cell
  return cell

def constant (bits : Cell) : Assemble UInt16 := do
  let cell ← alloc 1
  put cell bits
  return cell

def constantVector (x y z : Cell) : Assemble UInt16 := do
  let cell ← alloc 3
  put cell x
  put (cell + 1) y
  put (cell + 2) z
  return cell

def constantString (s : String) : Assemble UInt16 := do
  let offset ← string s
  constant offset.toUInt32

def field (name : String) (type : ValueType) : Assemble FieldRef := do
  let field := (← get).parts.entityCells
  let nameOffset ← string name
  modify fun asm => { asm with parts := { asm.parts with
    entityCells := field + UInt32.ofNat type.cells
    fieldDefs := asm.parts.fieldDefs.push ⟨type, false, field.toUInt16, nameOffset⟩ } }
  let cell ← constant field
  defineGlobal name .field false cell
  return ⟨field, cell, type⟩

def reserveEntityCells (cells : UInt32) : Assemble Unit :=
  modify fun asm => { asm with
    parts := { asm.parts with entityCells := asm.parts.entityCells + cells } }

def defineFunction (name : String) (entry : Int32 → FunctionEntry) : Assemble (Nat × UInt16) := do
  let index := (← get).parts.functions.size
  let nameOffset ← string name
  modify fun asm => { asm with
    parts := { asm.parts with functions := asm.parts.functions.push (entry nameOffset) } }
  let handle ← constant (UInt32.ofNat index)
  defineGlobal name .function false handle
  return (index, handle)

def parmSizes (params : List ValueType) : Vector UInt8 8 :=
  Vector.ofFn fun i => (params[i.val]?.map fun t => UInt8.ofNat t.cells).getD 0

/-- Declare a function whose body starts at the next statement. Parameters and locals make up its
window, in this order. -/
def function (name : String) (params locals : List ValueType) :
    Assemble (Option FunctionRef) := do
  if Slots.maxParms < params.length then return none
  let start := (← get).parts.globals.size
  let first := (← get).parts.statements.size
  let paramCells ← params.mapM fun type => alloc type.cells
  let localCells ← locals.mapM fun type => alloc type.cells
  let window := (← get).parts.globals.size - start
  let (index, handle) ← defineFunction name fun nameOffset => {
    first := Int32.ofNat first
    parmStart := UInt32.ofNat start
    locals := UInt32.ofNat window
    name := nameOffset
    numParms := UInt32.ofNat params.length
    parmSizes := parmSizes params }
  return some ⟨index, handle, paramCells, localCells⟩

def builtin (name : String) (params : List ValueType) : Assemble (Option FunctionRef) := do
  if Slots.maxParms < params.length then return none
  modify fun asm => { asm with builtinCount := asm.builtinCount + 1 }
  let count := (← get).builtinCount
  let (index, handle) ← defineFunction name fun nameOffset => {
    first := -Int32.ofNat count
    name := nameOffset
    numParms := UInt32.ofNat params.length
    parmSizes := parmSizes params }
  return some ⟨index, handle, [], []⟩

def nextStatement : Assemble Nat := return (← get).parts.statements.size

def emit (st : Statement) : Assemble Nat := fun asm =>
  (asm.parts.statements.size,
    { asm with parts := { asm.parts with statements := asm.parts.statements.push st } })

def storeOp : ValueType → Opcode
  | .vector => .storeV
  | .string => .storeS
  | .entity => .storeEnt
  | .field => .storeFld
  | .function => .storeFnc
  | .int | .pointer => .storeI
  | .float | .void => .storeF

def arg (n : Nat) (cell : UInt16) (type : ValueType) : Assemble Nat :=
  emit ⟨storeOp type, cell, UInt16.ofNat (Slots.parm n), 0⟩

def call (cell : UInt16) (argc : Nat) : Assemble (Option Nat) :=
  match Opcode.call? argc with
  | some op => return some (← emit ⟨op, cell, 0, 0⟩)
  | none => return none

/-- Return the value of a cell; cell 0 returns nothing. -/
def ret (cell : UInt16) : Assemble Nat := emit ⟨.ret, cell, 0, 0⟩

def goto (distance : Int16) : Assemble Nat := emit ⟨.goto, distance.toUInt16, 0, 0⟩

def ifTrue (cell : UInt16) (distance : Int16) : Assemble Nat :=
  emit ⟨.branch, cell, distance.toUInt16, 0⟩

def ifFalse (cell : UInt16) (distance : Int16) : Assemble Nat :=
  emit ⟨.branchNot, cell, distance.toUInt16, 0⟩

def retarget (source target : Nat) (st : Statement) : Statement :=
  let distance := UInt16.ofInt ((target : Int) - source)
  match st.op with
  | .goto => { st with a := distance }
  | _ => { st with b := distance }

def patchJump (source target : Nat) : Assemble (Option Unit) := do
  if source < (← get).parts.statements.size then
    modify fun asm => { asm with parts := { asm.parts with
      statements := asm.parts.statements.modify source (retarget source target) } }
    return some ()
  else return none

def encode (asm : Assembler) : Bytes := asm.parts.encode

def build (asm : Assembler) : Except FormatError Image := Image.decode asm.encode

end Assembler

end GameVm
