import GameVm.Machine.Error
import GameVm.Memory.Globals
import GameVm.Program.FunctionEntry

/-! The call stack: frames, saved locals and the state of the outermost call. -/

namespace GameVm

structure Frame where
  function : Nat
  callerStatement : Nat
  localsBase : Nat
  parmStart : Nat
  locals : Nat
  deriving DecidableEq, Repr

inductive Interrupt where
  | error | runaway | abort
  deriving DecidableEq, Repr

inductive CallState where
  | ready | running | returned
  | interrupted (why : Interrupt)
  deriving DecidableEq, Repr

structure Context where
  /-- Frames, the outermost first. -/
  frames : Array Frame
  saved : Array Cell
  statement : Nat
  /-- Statements of the current or last outermost call. -/
  instructions : Nat
  activeCalls : Nat
  state : CallState
  /-- The first runtime error of a nested call that has not been raised yet. -/
  pending : Option RuntimeError
  maxDepth : Nat
  localLimit : Nat
  deriving DecidableEq

/-- What a call has to restore: where the stack stood when it began. -/
structure CallMark where
  depth : Nat
  locals : Nat
  statement : Nat
  outermost : Bool
  deriving DecidableEq, Repr

/-- Operations on the stack and the globals that its windows lie in. -/
abbrev Framing (α : Type) := EStateM FrameError (Context × Globals) α

namespace Context

def fresh (maxDepth localLimit : Nat) : Context where
  frames := #[]
  saved := #[]
  statement := 0
  instructions := 0
  activeCalls := 0
  state := .ready
  pending := none
  maxDepth := maxDepth
  localLimit := localLimit

def depth (c : Context) : Nat := c.frames.size

def isRunning (c : Context) : Bool := 0 < c.activeCalls

def currentFunction (c : Context) : Nat :=
  match c.frames.back? with
  | some frame => frame.function
  | none => 0

@[inline] def setStatement (c : Context) (statement : Nat) : Context := { c with statement }

@[inline] def tick (c : Context) : Context := { c with instructions := c.instructions + 1 }

/-- Copy `n` cells one after the other. -/
def copyCells (source target : Nat) : Nat → Access Globals Unit
  | 0 => pure ()
  | n + 1 => do
    match (← get).cell source with
    | .ok v => Globals.setCell target v
    | .error err => throw err
    copyCells (source + 1) (target + 1) n

def copyParms (n target : Nat) : List Nat → Access Globals Unit
  | [] => pure ()
  | size :: sizes => do
    copyCells (Slots.parm n) target size
    copyParms (n + 1) (target + size) sizes

/-- Enter a function: save its window, then copy the parameters into it. -/
def push (function : Nat) (entry : FunctionEntry) : Framing Unit := fun (c, globals) =>
  let start := entry.parmStart.toNat
  let size := entry.locals.toNat
  let available := c.localLimit - c.saved.size
  if c.maxDepth ≤ c.depth then .error (.stackOverflow c.depth) (c, globals)
  else if available < size then .error (.localsOverflow size available) (c, globals)
  else match globals.read start size with
    | .error err => .error (.access err) (c, globals)
    | .ok window =>
      let frame := ⟨function, c.statement, c.saved.size, start, size⟩
      let c := { c with frames := c.frames.push frame, saved := c.saved ++ window }
      match copyParms 0 start entry.parms globals with
      | .ok _ globals => .ok () (c, globals)
      | .error err globals => .error (.access err) (c, globals)

def pop : Framing Frame := fun (c, globals) =>
  match c.frames.back? with
  | none => .error .underflow (c, globals)
  | some frame =>
    let c := { c with frames := c.frames.pop }
    match globals.check frame.parmStart frame.locals with
    | .error err => .error (.access err) (c, globals)
    | .ok _ =>
      let window := Cells.read c.saved frame.localsBase (c.saved.size - frame.localsBase)
      .ok frame ({ c with
        saved := c.saved.shrink frame.localsBase
        statement := frame.callerStatement },
        ⟨Cells.write globals.cells frame.parmStart window⟩)

def mark (c : Context) : CallMark where
  depth := c.depth
  locals := c.saved.size
  statement := c.statement
  outermost := c.activeCalls = 0

/-- Begin a call. Only an outermost one starts the count anew. -/
def beginCall (c : Context) : Context :=
  if c.activeCalls = 0 then
    { c with instructions := 0, state := .running, pending := none, activeCalls := 1 }
  else { c with activeCalls := c.activeCalls + 1 }

def popMany : Nat → Context × Globals → Context × Globals
  | 0, s => s
  | n + 1, s =>
    match pop s with
    | .ok _ s => popMany n s
    | .error _ s => s

def rewind (c : Context) (mark : CallMark) : Context :=
  { c with
    frames := c.frames.shrink mark.depth
    saved := c.saved.shrink mark.locals
    statement := mark.statement }

def unwind (mark : CallMark) (s : Context × Globals) : Context × Globals :=
  let (c, globals) := popMany (s.1.depth - mark.depth) s
  (c.rewind mark, globals)

/-- Keep a runtime error of a nested call; the first one stays. -/
def recordFault (c : Context) (err : VmError) : Context :=
  match c.pending with
  | some _ => c
  | none => { c with pending := err.runtime? }

def interrupt : VmError → Interrupt
  | .runtime (.runaway ..) => .runaway
  | .runtime (.abort _) => .abort
  | _ => .error

def endCall (c : Context) (outermost : Bool) (err : Option VmError) : Context :=
  if outermost then
    { c with
      activeCalls := c.activeCalls - 1
      pending := none
      state := match err with | none => .returned | some err => .interrupted (interrupt err) }
  else { c with activeCalls := c.activeCalls - 1 }

end Context

end GameVm
