import GameVm.Memory.AccessError
import GameVm.Program.Blob
import GameVm.Text.Utf8

/-! Strings of a running program: constants, a rotating pool, and strings that are kept. -/

namespace GameVm

inductive StringKind where
  | constant (offset : Nat)
  | scratch (slot : Nat)
  | persistent (slot : Nat)
  deriving DecidableEq, Repr

structure StringTable where
  constants : Blob
  scratch : Array Bytes
  scratchSize : Nat
  nextScratch : Nat
  persistent : Array (Option Bytes)
  /-- Kept slots that are empty, the one to be used next first. -/
  vacant : List Nat
  deriving DecidableEq

namespace StringTable

/-- A table without runtime strings; the pool has a slot at least. -/
def fresh (constants : Blob) (pool scratchSize : Nat) : StringTable where
  constants := constants
  scratch := Array.replicate (max pool 1) []
  scratchSize := scratchSize
  nextScratch := 0
  persistent := #[]
  vacant := []

def poolSize (t : StringTable) : Nat := t.scratch.size

/-- Handles count up through the constants from 0, and down through the pool and then the kept
slots from -1. -/
def kind? (t : StringTable) (handle : Int32) : Option StringKind :=
  match handle.toInt with
  | .ofNat offset =>
    if offset = 0 ∨ offset < t.constants.size then some (.constant offset) else none
  | .negSucc n =>
    if n < t.poolSize then some (.scratch n)
    else if n - t.poolSize < t.persistent.size then some (.persistent (n - t.poolSize))
    else none

def resolve (t : StringTable) (handle : Int32) : Except AccessError Bytes :=
  match t.kind? handle with
  | some (.constant offset) => .ok (t.constants.stringFrom offset)
  | some (.scratch slot) => .ok (t.scratch[slot]?.getD []).untilZero
  | some (.persistent slot) =>
    match t.persistent[slot]? with
    | some (some bytes) => .ok bytes.untilZero
    | _ => .error (.string handle)
  | none => .error (.string handle)

def resolveLossy (t : StringTable) (handle : Int32) : Except AccessError String :=
  (t.resolve handle).map Utf8.decodeLossy

def scratchHandle (slot : Nat) : Int32 := Int32.ofInt (-(slot : Int) - 1)

def persistentHandle (t : StringTable) (slot : Nat) : Int32 :=
  Int32.ofInt (-(t.poolSize : Int) - 1 - slot)

/-- Copy bytes to the pool slot that was written longest ago. The copy ends at a zero byte or when
the slot is full. -/
def newScratch (bytes : Bytes) : StateM StringTable Int32 := fun t =>
  let slot := t.nextScratch
  (scratchHandle slot, { t with
    scratch := t.scratch.setIfInBounds slot (bytes.untilZero.take t.scratchSize)
    nextScratch := (slot + 1) % t.poolSize })

def persist (bytes : Bytes) : StateM StringTable Int32 := fun t =>
  let text := bytes.untilZero
  match t.vacant with
  | slot :: vacant =>
    (t.persistentHandle slot,
      { t with persistent := t.persistent.setIfInBounds slot (some text), vacant })
  | [] =>
    (t.persistentHandle t.persistent.size, { t with persistent := t.persistent.push (some text) })

def release (handle : Int32) : Access StringTable Unit := fun t =>
  match t.kind? handle with
  | some (.persistent slot) =>
    if (t.persistent[slot]?.getD none).isSome then
      .ok () { t with
        persistent := t.persistent.setIfInBounds slot none
        vacant := slot :: t.vacant }
    else .error (.string handle) t
  | _ => .error (.string handle) t

def live (t : StringTable) : Nat := t.persistent.countP (·.isSome)

def findConstant? (t : StringTable) (text : Bytes) : Option Int32 :=
  if text.isEmpty then some 0 else (t.constants.find? text).map Int32.ofNat

def reset (t : StringTable) : StringTable :=
  { t with
    scratch := t.scratch.map fun _ => []
    nextScratch := 0
    persistent := #[]
    vacant := [] }

end StringTable

end GameVm
