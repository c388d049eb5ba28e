import GameVm.Memory.Entities
import GameVm.Memory.Globals
import GameVm.Memory.StringTable

/-! The memory of a program, and pointers into it. -/

namespace GameVm

inductive PointerTarget where
  | global (cell : Nat)
  | entity (byte : Cell)
  deriving DecidableEq, Repr

namespace Pointer

def globalBit : Cell := 0x80000000

def global (cell : UInt16) : Cell := globalBit ||| (cell.toUInt32 <<< 2)

/-- What a pointer addresses; `none` unless it is a multiple of four. -/
def target? (raw : Cell) : Option PointerTarget :=
  if raw &&& 3 ≠ 0 then none
  else if raw &&& globalBit ≠ 0 then some (.global ((raw &&& 0x7FFFFFFF) >>> 2).toNat)
  else some (.entity raw)

end Pointer

structure Memory where
  globals : Globals
  entities : Entities
  strings : StringTable
  deriving DecidableEq

namespace Memory

def load (m : Memory) (pointer : Cell) (n : Nat) : Except AccessError (List Cell) :=
  match Pointer.target? pointer with
  | some (.global cell) => (m.globals.read cell n).mapError fun _ => .pointer pointer
  | some (.entity byte) => m.entities.load byte n
  | none => .error (.pointer pointer)

@[inline] def onGlobals {α : Type} (act : Access Globals α) : Access Memory α :=
  fun ⟨globals, entities, strings⟩ =>
    match act globals with
    | .ok a globals => .ok a ⟨globals, entities, strings⟩
    | .error err globals => .error err ⟨globals, entities, strings⟩

@[inline] def onEntities {α : Type} (act : Access Entities α) : Access Memory α :=
  fun ⟨globals, entities, strings⟩ =>
    match act entities with
    | .ok a entities => .ok a ⟨globals, entities, strings⟩
    | .error err entities => .error err ⟨globals, entities, strings⟩

@[inline] def onStrings {α : Type} (act : Access StringTable α) : Access Memory α :=
  fun ⟨globals, entities, strings⟩ =>
    match act strings with
    | .ok a strings => .ok a ⟨globals, entities, strings⟩
    | .error err strings => .error err ⟨globals, entities, strings⟩

def store (pointer : Cell) (vs : List Cell) : Access Memory Unit :=
  match Pointer.target? pointer with
  | some (.global cell) => EStateM.adaptExcept (fun _ => .pointer pointer)
      (onGlobals (Globals.write cell vs))
  | some (.entity byte) => onEntities (Entities.store byte vs)
  | none => throw (.pointer pointer)

end Memory

end GameVm
