import GameVm.Machine.Host
import GameVm.Machine.Inspect

/-! Services that the host's code is built from. -/

namespace GameVm

namespace Service

def ask (op : HostOp) : Service op.Answer := ExceptT.lift (Host.request op)

def ofAccess {α : Type} : Except AccessError α → Service α
  | .ok a => return a
  | .error err => throw (.access err)

def look : Service Machine := ask .look

def read {α : Type} (f : Machine → Except AccessError α) : Service α := do
  ofAccess (f (← look))

def writeGlobals (cell : Nat) (cells : List Cell) : Service Unit := do
  ofAccess (← ask (.memory (.writeGlobals cell cells)))

def writeField (entity field : Nat) (cells : List Cell) : Service Unit := do
  ofAccess (← ask (.memory (.writeField entity field cells)))

/-- Write a global by name. The value decides how many cells are written. -/
def setGlobalValue (setup : Setup) (name : String) (value : Value) : Service Unit :=
  match setup.image.findGlobal? name with
  | some d => writeGlobals d.offset.toNat value.cells
  | none => throw (.access (.unknownSymbol name))

def setFieldValue (setup : Setup) (entity : Nat) (name : String) (value : Value) : Service Unit :=
  match setup.image.findField? name with
  | some d => writeField entity d.offset.toNat value.cells
  | none => throw (.access (.unknownSymbol name))

def newString (bytes : Bytes) : Service Int32 := ask (.memory (.newScratch bytes))

def allocString (bytes : Bytes) : Service Int32 := ask (.memory (.persist bytes))

def freeString (handle : Int32) : Service Unit := do
  ofAccess (← ask (.memory (.release handle)))

def spawn (setup : Setup) : Service Nat := do
  let now := (← look).now setup
  ofAccess (← ask (.memory (.allocEntity now)))

def remove (setup : Setup) (entity : Nat) : Service Unit := do
  let now := (← look).now setup
  ofAccess (← ask (.memory (.freeEntity entity now)))

def resetProfile : Service Unit := ask .resetProfile

def reset : Service Unit := Host.request .reset

def execute (function : Nat) (caller : String) : Service Unit :=
  Host.request (.execute function caller)

def executeByName (setup : Setup) (name caller : String) : Service Unit :=
  match setup.image.findFunction? name with
  | some function => execute function caller
  | none => throw (.access (.unknownSymbol name))

def call (function : Nat) : Service Unit := Host.request (.call function)

def abort {α : Type} (message : String) : Service α := throw (.runtime (.abort message))

def note (text : String) : Service Unit := ask (.note text)

end Service

namespace CallSite

def name (site : CallSite) : String := site.setup.image.functionName site.function

def parm (site : CallSite) (index : Nat) : Except AccessError Nat :=
  if index < site.argc then .ok (Slots.parm index) else .error (.argument index site.argc)

def cell (site : CallSite) (m : Machine) (index : Nat) : Except AccessError Cell := do
  m.memory.globals.cell (← site.parm index)

def argCell (site : CallSite) (index : Nat) : Service Cell :=
  Service.read fun m => site.cell m index

def argVector (site : CallSite) (index : Nat) : Service Vec3 :=
  Service.read fun m => do m.memory.globals.vector (← site.parm index)

def argBytes (site : CallSite) (index : Nat) : Service Bytes :=
  Service.read fun m => do m.memory.strings.resolve (← site.cell m index).toInt32

def argString (site : CallSite) (index : Nat) : Service String :=
  Service.read fun m => do m.memory.strings.resolveLossy (← site.cell m index).toInt32

def argEntity (site : CallSite) (index : Nat) : Service Nat :=
  Service.read fun m => do m.memory.entities.check (← site.cell m index).toInt32.toInt

def argFunction (site : CallSite) (index : Nat) : Service Nat :=
  Service.read fun m => do
    let function := (← site.cell m index).toNat
    if function < site.setup.image.parts.functions.size then return function
    else throw (.function function)

def giveVector (v : Vec3) : Service Unit := do
  let _ ← Service.ask (.memory (.writeGlobals Slots.result v.toList))

def giveCell (v : Cell) : Service Unit := giveVector ⟨v, 0, 0⟩

def giveString (bytes : Bytes) : Service Int32 := do
  let handle ← Service.newString bytes
  giveCell handle.toUInt32
  return handle

end CallSite

end GameVm
