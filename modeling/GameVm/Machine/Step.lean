import GameVm.Machine.Action
import GameVm.Machine.Machine

/-! One statement, short of what builtins do. -/

namespace GameVm

inductive Flow where
  | running
  | returned
  /-- Run a builtin, then go on behind the call. -/
  | builtin (function argc : Nat)
  deriving DecidableEq, Repr

/-- Steps of a machine; a step that fails leaves a machine, too. -/
abbrev Exec (α : Type) := EStateM Fault Machine α

namespace Exec

@[inline] def look {α : Type} (f : Machine → Except AccessError α) : Exec α := fun m =>
  match f m with
  | .ok a => .ok a m
  | .error err => .error (.access err) m

@[inline] def onMemory {α : Type} (act : Access Memory α) : Exec α :=
  fun ⟨memory, context, profile⟩ =>
    match act memory with
    | .ok a memory => .ok a ⟨memory, context, profile⟩
    | .error err memory => .error (.access err) ⟨memory, context, profile⟩

@[inline] def onFrames {α : Type} (act : Framing α) : Exec α :=
  fun ⟨⟨globals, entities, strings⟩, context, profile⟩ =>
    match act (context, globals) with
    | .ok a (context, globals) => .ok a ⟨⟨globals, entities, strings⟩, context, profile⟩
    | .error err (context, globals) =>
      .error (.frame err) ⟨⟨globals, entities, strings⟩, context, profile⟩

@[inline] def cell (i : Nat) : Exec Cell := look fun m => m.memory.globals.cell i

@[inline] def vector (i : Nat) : Exec Vec3 := look fun m => m.memory.globals.vector i

@[inline] def cells (i n : Nat) : Exec (List Cell) := look fun m => m.memory.globals.read i n

@[inline] def setCell (i : Nat) (v : Cell) : Exec Unit :=
  onMemory (Memory.onGlobals (Globals.setCell i v))

def setCells (i : Nat) (vs : List Cell) : Exec Unit :=
  onMemory (Memory.onGlobals (Globals.write i vs))

def entity (i : Nat) : Exec Nat := do
  let raw ← cell i
  look fun m => m.memory.entities.check raw.toNat

def resolve (handle : Int32) : Exec Bytes := look fun m => m.memory.strings.resolve handle

@[inline] def setStatement (statement : Nat) : Exec Unit :=
  modify fun m => m.mapContext (·.setStatement statement)

@[inline] def next : Exec Flow := do
  modify fun m => m.mapContext fun c => c.setStatement (c.statement + 1)
  return .running

def guardWorld (setup : Setup) (isWorld : Bool) : Exec Unit :=
  if isWorld && !setup.settings.allowWorldWrites then throw (.access .worldEntity) else pure ()

/-- Copy the value at `a` to where results are left; cells past the end count as zero, and cell 0
stands for no result. -/
def leaveResult (a : Nat) : Exec Unit := do
  if a = Slots.null then return
  let globals := (← get).memory.globals
  let result := [globals.cells.getD a 0, globals.cells.getD (a + 1) 0, globals.cells.getD (a + 2) 0]
  setCells Slots.result result

/-- Whether two handles stand for the same bytes; equal handles always do. -/
def stringsEqual (x y : Int32) : Exec Bool := do
  if x = y then return true
  let s ← resolve x
  let t ← resolve y
  return s = t

def stringEmpty (handle : Int32) : Exec Bool := do
  if handle = 0 then return true
  let s ← resolve handle
  return s.isEmpty

def loadField (st : Statement) (width : Width) : Exec Unit := do
  let entity ← entity st.a.toNat
  let field ← cell st.b.toNat
  let value ← look fun m => m.memory.entities.field entity field.toNat width.cells
  setCells st.c.toNat value

def address (setup : Setup) (st : Statement) : Exec Unit := do
  let entity ← entity st.a.toNat
  guardWorld setup (entity = Entities.world)
  let field ← cell st.b.toNat
  let pointer ← look fun m => m.memory.entities.address entity field.toNat
  setCell st.c.toNat pointer

def pointsToWorld (entities : Entities) (pointer : Cell) : Bool :=
  match Pointer.target? pointer with
  | some (.entity byte) => byte.toNat < entities.recordBytes
  | _ => false

def storeIndirect (setup : Setup) (st : Statement) (width : Width) : Exec Unit := do
  let pointer ← cell st.b.toNat
  guardWorld setup (pointsToWorld (← get).memory.entities pointer)
  let value ← cells st.a.toNat width.cells
  onMemory (Memory.store pointer value)

def loadIndirect (st : Statement) (width : Width) : Exec Unit := do
  let pointer ← cell st.a.toNat
  let value ← look fun m => m.memory.load pointer width.cells
  setCells st.c.toNat value

def setField (entity field : Nat) (v : Cell) : Exec Unit :=
  onMemory (Memory.onEntities (Entities.setField entity field [v]))

def state (setup : Setup) (st : Statement) : Exec Unit := do
  let some symbols := setup.stateSymbols | throw .stateSymbols
  let entity ← entity symbols.self
  guardWorld setup (entity = Entities.world)
  let frame ← cell st.a.toNat
  let think ← cell st.b.toNat
  let time ← cell symbols.time
  setField entity symbols.frame frame
  setField entity symbols.think think
  setField entity symbols.nextthink (Binary32.add time setup.settings.stateInterval)

def jump (setup : Setup) (operand : UInt16) : Exec Flow := do
  match jumpTarget? (← get).context.statement operand.toInt16 with
  | some target =>
    if target < setup.image.parts.statements.size then
      setStatement target
      return .running
    else throw .jumpOutOfRange
  | none => throw .jumpOutOfRange

def enter (setup : Setup) (function : Nat) : Exec Unit := do
  if function = 0 then throw .nullFunction
  let some entry := setup.image.function? function | throw (.badFunction function)
  if entry.isBuiltin then throw (.directBuiltin (setup.image.functionName function))
  onFrames (Context.push function entry)
  modify fun m => (m.mapContext (·.setStatement entry.first.toInt.toNat)).mapProfile function
    fun p => { p with calls := p.calls + 1 }

def call (setup : Setup) (a argc : Nat) : Exec Flow := do
  let function := (← cell a).toNat
  if (setup.image.function? function).any (·.isBuiltin) then return .builtin function argc
  enter setup function
  return .running

def perform (setup : Setup) (st : Statement) : Action → Exec Flow
  | .leave => do
    leaveResult st.a.toNat
    let _ ← onFrames Context.pop
    return .returned
  | .cell1 f => do
    let x ← cell st.a.toNat
    setCell st.c.toNat (f x)
    next
  | .cell2 f => do
    let x ← cell st.a.toNat
    let y ← cell st.b.toNat
    setCell st.c.toNat (f x y)
    next
  | .vec1 f => do
    let v ← vector st.a.toNat
    setCell st.c.toNat (f v)
    next
  | .vec2 f => do
    let v ← vector st.a.toNat
    let w ← vector st.b.toNat
    setCell st.c.toNat (f v w)
    next
  | .vec3 f => do
    let v ← vector st.a.toNat
    let w ← vector st.b.toNat
    setCells st.c.toNat (f v w).toList
    next
  | .scaleRight f => do
    let s ← cell st.a.toNat
    let v ← vector st.b.toNat
    setCells st.c.toNat (f s v).toList
    next
  | .scaleLeft f => do
    let v ← vector st.a.toNat
    let s ← cell st.b.toNat
    setCells st.c.toNat (f v s).toList
    next
  | .divide f => do
    let x ← cell st.a.toNat
    let y ← cell st.b.toNat
    if y = 0 then throw .divisionByZero
    setCell st.c.toNat (f x.toInt32 y.toInt32).toUInt32
    next
  | .stringsEqual expected => do
    let x ← cell st.a.toNat
    let y ← cell st.b.toNat
    let equal ← stringsEqual x.toInt32 y.toInt32
    setCell st.c.toNat (Binary32.ofBool (equal == expected))
    next
  | .stringEmpty => do
    let x ← cell st.a.toNat
    let empty ← stringEmpty x.toInt32
    setCell st.c.toNat (Binary32.ofBool empty)
    next
  | .loadField width => do
    loadField st width
    next
  | .address => do
    address setup st
    next
  | .copy width => do
    let value ← cells st.a.toNat width.cells
    setCells st.b.toNat value
    next
  | .storeIndirect width => do
    storeIndirect setup st width
    next
  | .globalAddress => do
    setCell st.c.toNat (Pointer.global st.a)
    next
  | .loadIndirect width => do
    loadIndirect st width
    next
  | .branch whenSet => do
    let x ← cell st.a.toNat
    if (x != 0) == whenSet then jump setup st.b else next
  | .goto => jump setup st.a
  | .call argc => call setup st.a.toNat argc
  | .state => do
    state setup st
    next

def dispatch (setup : Setup) (st : Statement) : Exec Flow := perform setup st (.ofOpcode st.op)

end Exec

end GameVm
