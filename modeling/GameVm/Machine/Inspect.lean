import GameVm.Machine.Machine

/-! What can be read off a machine: globals, fields and counters, by number or by name. -/

namespace GameVm.Machine

def getGlobal (m : Machine) (cell : Nat) (type : ValueType) : Except AccessError Value :=
  (m.memory.globals.read cell type.cells).map (Value.ofCells type)

def getField (m : Machine) (entity field : Nat) (type : ValueType) : Except AccessError Value :=
  (m.memory.entities.field entity field type.cells).map (Value.ofCells type)

def globalValue (setup : Setup) (m : Machine) (name : String) : Except AccessError Value :=
  match setup.image.findGlobal? name with
  | some d => m.getGlobal d.offset.toNat d.type
  | none => .error (.unknownSymbol name)

def fieldValue (setup : Setup) (m : Machine) (entity : Nat) (name : String) :
    Except AccessError Value :=
  match setup.image.findField? name with
  | some d => m.getField entity d.offset.toNat d.type
  | none => .error (.unknownSymbol name)

/-- A value as it is shown to people: strings are quoted and functions named. -/
def shown (setup : Setup) (m : Machine) : Value → String
  | .string handle =>
    "\"" ++ ((m.memory.strings.resolveLossy handle).toOption.getD "") ++ "\""
  | .function index => setup.image.functionName index.toNat ++ "()"
  | value => value.text

def describeFields (setup : Setup) (m : Machine) (entity : Nat) :
    List LayoutField → Except AccessError String
  | [] => .ok ""
  | f :: rest => do
    let value ← m.getField entity f.offset.toNat f.type
    let line := if value.isZero then "" else s!"\n  {f.name}: {m.shown setup value}"
    return line ++ (← describeFields setup m entity rest)

def describe (setup : Setup) (m : Machine) (entity : Nat) : Except AccessError String := do
  let entity ← m.memory.entities.check entity
  let mark := if m.memory.entities.isFree entity then " (free)" else ""
  let fields ← describeFields setup m entity setup.image.layout
  return Value.entityText entity ++ mark ++ fields

def profileOf (m : Machine) (function : Nat) : Profile := m.profile[function]?.getD {}

def profiles (setup : Setup) (m : Machine) : List (String × Profile) :=
  (m.profile.toList.zipIdx.filter fun (p, _) => 0 < p.calls ∨ 0 < p.statements).map
    fun (p, i) => (setup.image.functionName i, p)

end GameVm.Machine
