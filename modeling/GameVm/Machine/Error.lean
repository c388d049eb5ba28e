import GameVm.Domain
import GameVm.Memory.AccessError
import GameVm.Program.FormatError

/-! Why a call fails, and why an operation on a machine is refused. -/

namespace GameVm

inductive FrameError where
  | stackOverflow (frames : Nat)
  | localsOverflow (needed available : Nat)
  | underflow
  | access (err : AccessError)
  deriving DecidableEq, Repr

def FrameError.message : FrameError → String
  | .stackOverflow frames => s!"stack overflow ({frames} frames)"
  | .localsOverflow needed available =>
    s!"locals stack overflow ({needed} cells needed, {available} free)"
  | .underflow => "stack underflow"
  | .access err => err.message

inductive Fault where
  | access (err : AccessError)
  | frame (err : FrameError)
  | statementOutOfRange (statement : Nat)
  | jumpOutOfRange
  | nullFunction
  | badFunction (index : Nat)
  | directBuiltin (name : String)
  | stateSymbols
  | divisionByZero
  | unavailable (name : String) (domain : Domain) (allowed : DomainMask)
  | unbound (name : String)
  deriving DecidableEq, Repr

def Fault.message : Fault → String
  | .access err => err.message
  | .frame err => err.message
  | .statementOutOfRange statement => s!"statement {statement} out of range"
  | .jumpOutOfRange => "jump out of range"
  | .nullFunction => "NULL function"
  | .badFunction index => s!"bad function {index}"
  | .directBuiltin name => s!"builtin `{name}` cannot be executed directly"
  | .stateSymbols => "STATE needs the `self` and `time` globals and the `frame`, `think` and " ++
    "`nextthink` fields"
  | .divisionByZero => "integer division by zero"
  | .unavailable name domain allowed =>
    s!"builtin `{name}` is not available to the {domain.name} VM (allowed: {allowed.text})"
  | .unbound name => s!"builtin `{name}` is not bound"

structure TraceEntry where
  function : String
  statement : Nat
  deriving DecidableEq, Repr

def TraceEntry.text (t : TraceEntry) : String := s!"{t.function} : statement {t.statement}"

/-- A fault with the place it arose at; the trace starts with the innermost function. -/
structure ExecutionError where
  fault : Fault
  statement : Nat
  function : String
  trace : List TraceEntry
  deriving DecidableEq, Repr

inductive RuntimeError where
  | execution (err : ExecutionError)
  | runaway (function : String) (statement limit : Nat)
  | abort (message : String)
  deriving DecidableEq, Repr

def RuntimeError.message : RuntimeError → String
  | .execution err =>
    s!"execution error: {err.fault.message} (statement {err.statement} in {err.function})"
  | .runaway function statement limit =>
    s!"runaway loop: {limit} instructions exceeded in {function} at statement {statement}"
  | .abort text => s!"host requested abort: {text}"

inductive VmError where
  | runtime (err : RuntimeError)
  | programFormat (err : FormatError)
  | unresolvedBuiltin (domain : Domain) (name reason : String)
  | wrongVmActive (requested : Domain) (active : Option Domain)
  | noActiveVm
  | busy (domain : Domain)
  | noInstance (domain : Domain)
  | instanceExists (domain : Domain)
  | registration (reason : String)
  | invalidOptions (reason : String)
  | access (err : AccessError)
  deriving DecidableEq, Repr

namespace VmError

def message : VmError → String
  | .runtime err => err.message
  | .programFormat err => s!"program format error: {err.message}"
  | .unresolvedBuiltin domain name reason =>
    s!"{domain.name} program: unresolved builtin `{name}`: {reason}"
  | .wrongVmActive requested active =>
    let activeName := (active.map Domain.name).getD "none"
    s!"{requested.name} VM is not active (active: {activeName})"
  | .noActiveVm => "no VM is active"
  | .busy domain => s!"{domain.name} VM is executing"
  | .noInstance domain => s!"no {domain.name} VM instance"
  | .instanceExists domain => s!"{domain.name} VM instance already exists"
  | .registration reason => s!"builtin registration failed: {reason}"
  | .invalidOptions reason => s!"invalid instance options: {reason}"
  | .access err => s!"access error: {err.message}"

def runtime? : VmError → Option RuntimeError
  | .runtime err => some err
  | _ => none

end VmError

end GameVm
