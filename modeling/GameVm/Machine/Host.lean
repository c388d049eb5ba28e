import GameVm.Machine.Journal
import GameVm.Machine.Machine

/-! What code of the host may ask of a machine. -/

namespace GameVm

/-- Writes to memory that are open to the host, one for each way to change the globals, the entity
records or the strings where they are. Left out: to put other globals, other entity memory or
another string table in their place, which would change sizes that are meant to be fixed. -/
inductive MemoryOp where
  | writeGlobals (pos : Nat) (cells : List Cell)
  | writeField (entity field : Nat) (cells : List Cell)
  | storeEntity (byte : Cell) (cells : List Cell)
  | allocEntity (now : Cell)
  | freeEntity (entity : Nat) (now : Cell)
  | clearEntities
  | newScratch (bytes : Bytes)
  | persist (bytes : Bytes)
  | release (handle : Int32)
  | resetStrings

namespace MemoryOp

def Answer : MemoryOp → Type
  | .allocEntity _ => Except AccessError Nat
  | .newScratch _ | .persist _ => Int32
  | .clearEntities | .resetStrings => Unit
  | _ => Except AccessError Unit

@[inline] def settle {α : Type} (act : Access Memory α) (m : Memory) :
    Except AccessError α × Memory :=
  match act m with
  | .ok a m => (.ok a, m)
  | .error err m => (.error err, m)

@[inline] def onStrings {α : Type} (act : StateM StringTable α) : Memory → α × Memory
  | ⟨globals, entities, strings⟩ =>
    let (a, strings) := act strings
    (a, ⟨globals, entities, strings⟩)

def apply : (op : MemoryOp) → Memory → op.Answer × Memory
  | .writeGlobals pos cells => settle (Memory.onGlobals (Globals.write pos cells))
  | .writeField entity field cells =>
    settle (Memory.onEntities (Entities.setField entity field cells))
  | .storeEntity byte cells => settle (Memory.onEntities (Entities.store byte cells))
  | .allocEntity now => settle (Memory.onEntities (Entities.alloc now))
  | .freeEntity entity now => settle (Memory.onEntities (Entities.free entity now))
  | .clearEntities => fun ⟨globals, entities, strings⟩ => ((), ⟨globals, entities.clear, strings⟩)
  | .newScratch bytes => onStrings (StringTable.newScratch bytes)
  | .persist bytes => onStrings (StringTable.persist bytes)
  | .release handle => settle (Memory.onStrings (StringTable.release handle))
  | .resetStrings => fun ⟨globals, entities, strings⟩ => ((), ⟨globals, entities, strings.reset⟩)

end MemoryOp

/-- One request of the host. Memory is written by `MemoryOp` only and never replaced as a whole. -/
inductive HostOp where
  | look
  | memory (op : MemoryOp)
  | resetProfile
  | reset
  /-- Call a function of the program, unless a nested call has failed already. -/
  | call (function : Nat)
  | execute (function : Nat) (caller : String)
  | note (text : String)

def HostOp.Answer : HostOp → Type
  | .look => Machine
  | .memory op => op.Answer
  | .resetProfile | .note _ => Unit
  | .reset | .call _ | .execute .. => Except VmError Unit

/-- Code of the host: it asks, goes on with the answer, and comes to an end. -/
inductive Host (α : Type) where
  | done (a : α)
  | ask (op : HostOp) (next : op.Answer → Host α)

namespace Host

def bind {α β : Type} (f : α → Host β) : Host α → Host β
  | .done a => f a
  | .ask op next => .ask op fun answer => bind f (next answer)

instance : Monad Host where
  pure := .done
  bind x f := bind f x

def request (op : HostOp) : Host op.Answer := .ask op .done

end Host

abbrev Service (α : Type) := ExceptT VmError Host α

structure CallSite where
  setup : Setup
  function : Nat
  argc : Nat

structure Builtin where
  name : String
  domains : DomainMask
  run : CallSite → Service Unit

end GameVm
