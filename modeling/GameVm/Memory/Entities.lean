import GameVm.Memory.AccessError
import GameVm.Memory.Cells

/-! Entity records: a fixed number of equally wide runs of cells. -/

namespace GameVm

structure EntitySlot where
  free : Bool
  freedAt : Cell
  deriving DecidableEq, Repr

structure Entities where
  cells : Array Cell
  recordCells : Nat
  capacity : Nat
  /-- One past the highest record handed out so far. -/
  inUse : Nat
  slots : Array EntitySlot
  deriving DecidableEq

namespace Entities

def world : Nat := 0

/-- Seconds a record rests before it is handed out again: one half. -/
def reuseDelay : Cell := 0x3F000000

/-- World time before which records need no rest: two. -/
def startupGrace : Cell := 0x40000000

/-- Zero records of which only the world is in use; there is always a world, and it has a cell. -/
def fresh (capacity recordCells : Nat) : Entities where
  cells := Array.replicate (max capacity 1 * max recordCells 1) 0
  recordCells := max recordCells 1
  capacity := max capacity 1
  inUse := 1
  slots := (Array.replicate (max capacity 1) ⟨true, 0⟩).setIfInBounds world ⟨false, 0⟩

def recordBytes (e : Entities) : Nat := e.recordCells * 4

@[inline] def check (e : Entities) (entity : Int) : Except AccessError Nat :=
  if 0 ≤ entity ∧ entity < e.capacity then .ok entity.toNat
  else .error (.entity entity e.capacity)

/-- The byte address of a record. -/
def handle (e : Entities) (entity : Nat) : Except AccessError Int32 := do
  let entity ← e.check entity
  return Int32.ofNat (entity * e.recordBytes)

def index (e : Entities) (handle : Int32) : Except AccessError Nat :=
  if handle.toInt < 0 ∨ handle.toInt % e.recordBytes ≠ 0 then .error (.entityHandle handle)
  else e.check (handle.toInt / e.recordBytes)

def span (e : Entities) (entity field n : Nat) : Except AccessError Nat := do
  let entity ← e.check entity
  if e.recordCells < field + n then throw (.field field n e.recordCells)
  return entity * e.recordCells + field

def field (e : Entities) (entity field n : Nat) : Except AccessError (List Cell) := do
  let start ← e.span entity field n
  return Cells.read e.cells start n

def record (e : Entities) (entity : Nat) : Except AccessError (List Cell) :=
  e.field entity 0 e.recordCells

def setField (entity field : Nat) (vs : List Cell) : Access Entities Unit := fun e =>
  match e.span entity field vs.length with
  | .ok start => .ok () { e with cells := Cells.write e.cells start vs }
  | .error err => .error err e

def address (e : Entities) (entity field : Nat) : Except AccessError Cell := do
  let start ← e.span entity field 1
  return UInt32.ofNat (start * 4)

def locate (e : Entities) (byte : Cell) (n : Nat) : Except AccessError Nat :=
  let cell := byte.toNat / 4
  if e.cells.size < cell + n then .error (.pointer byte) else .ok cell

def load (e : Entities) (byte : Cell) (n : Nat) : Except AccessError (List Cell) := do
  let cell ← e.locate byte n
  return Cells.read e.cells cell n

def store (byte : Cell) (vs : List Cell) : Access Entities Unit := fun e =>
  match e.locate byte vs.length with
  | .ok cell => .ok () { e with cells := Cells.write e.cells cell vs }
  | .error err => .error err e

def isFree (e : Entities) (entity : Nat) : Bool :=
  match e.slots[entity]? with
  | some slot => slot.free || e.inUse ≤ entity
  | none => true

def reusable (e : Entities) (now : Cell) (entity : Nat) : Bool :=
  match e.slots[entity]? with
  | some slot => slot.free &&
    (Binary32.lt now startupGrace || Binary32.lt reuseDelay (Binary32.sub now slot.freedAt))
  | none => false

/-- The record to hand out next: the lowest that may be used again, else a new one. -/
def next? (e : Entities) (now : Cell) : Option Nat :=
  match (List.range' 1 (e.inUse - 1)).find? (e.reusable now) with
  | some entity => some entity
  | none => if e.inUse < e.capacity then some e.inUse else none

def clearRecord (e : Entities) (entity : Nat) : Entities :=
  { e with cells :=
      Cells.write e.cells (entity * e.recordCells) (List.replicate e.recordCells 0) }

def alloc (now : Cell) : Access Entities Nat := fun e =>
  match e.next? now with
  | some entity =>
    let e := e.clearRecord entity
    .ok entity { e with
      inUse := max e.inUse (entity + 1)
      slots := e.slots.modify entity fun slot => { slot with free := false } }
  | none => .error (.entitiesExhausted e.capacity) e

def free (entity : Nat) (now : Cell) : Access Entities Unit := fun e =>
  if entity = world then .error .worldEntity e
  else if e.inUse ≤ entity then .error (.entity entity e.capacity) e
  else
    let e := e.clearRecord entity
    .ok () { e with slots := e.slots.setIfInBounds entity ⟨true, now⟩ }

def clear (e : Entities) : Entities :=
  { e with
    cells := Array.replicate e.cells.size 0
    slots := (Array.replicate e.slots.size ⟨true, 0⟩).modify world fun slot =>
      { slot with free := false }
    inUse := 1 }

end Entities

end GameVm
