import GameVm.Float.Binary32

/-! Settings of machines and options for bringing one up. -/

namespace GameVm

/-- What happens to a builtin that the program's domain may not call: it fails the bring-up, or
only the calls of it. -/
inductive BuiltinBinding where
  | strict | deferred
  deriving DecidableEq, Repr

structure Settings where
  /-- Statements an outermost call may run, nested calls included. -/
  maxInstructions : Nat := 10000000
  maxCallDepth : Nat := 1024
  localStackSize : Nat := 16384
  scratchStrings : Nat := 16
  scratchStringSize : Nat := 4096
  /-- Seconds from a state statement to the next thought: one tenth. -/
  stateInterval : Cell := 0x3DCCCCCD
  allowWorldWrites : Bool := false
  builtinBinding : BuiltinBinding := .strict
  traceStatements : Bool := false
  deriving DecidableEq, Repr

structure LoadOptions where
  expectedChecksum : Option UInt32 := none
  requiredFunctions : List String := []
  requiredFields : List String := []
  requiredGlobals : List String := []
  deriving DecidableEq, Repr

structure InstanceOptions where
  /-- Number of entity records, the world included. -/
  entityCapacity : Nat := 1024
  /-- Cells of a record; as many as the program needs unless given. -/
  recordCells : Option Nat := none
  load : LoadOptions := {}
  deriving DecidableEq, Repr

end GameVm
