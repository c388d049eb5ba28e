import GameVm.Machine.Host
import GameVm.Machine.Step

/-! Calls: the loop over statements, builtins, and calls that builtins make in turn. -/

namespace GameVm

structure Linked where
  setup : Setup
  /-- By function number; `none` for functions of the program. -/
  bound : Array (Option Builtin)

/-- Parts of a call: on failure, too, there is a machine and a journal. -/
abbrev Call (α : Type) := EStateM VmError (Recorded Machine) α

namespace Call

/-- The functions on the stack, the innermost first, each with the statement it has reached. -/
def traceFrom (image : Image) (statement : Nat) : List Frame → List TraceEntry
  | [] => []
  | frame :: outer =>
    ⟨image.functionName frame.function, statement⟩ :: traceFrom image frame.callerStatement outer

/-- A fault at the place where the machine stands; the label counts when nothing runs. -/
def located (setup : Setup) (caller : String) (fault : Fault) (m : Machine) : VmError :=
  let trace := traceFrom setup.image m.context.statement m.context.frames.toList.reverse
  match trace with
  | [] => .runtime (.execution ⟨fault, m.context.statement, caller, []⟩)
  | top :: _ => .runtime (.execution ⟨fault, top.statement, top.function, trace⟩)

/-- Refused accesses become faults of the current statement; other errors stay as they are. -/
def relocate (setup : Setup) (caller : String) (err : VmError) (m : Machine) : VmError :=
  match err with
  | .access err => located setup caller (.access err) m
  | err => err

@[inline] def mapContext (f : Context → Context) (s : Recorded Machine) : Recorded Machine :=
  s.map (·.mapContext f)

@[inline] def mapProfile (function : Nat) (f : Profile → Profile) (s : Recorded Machine) :
    Recorded Machine :=
  s.map (·.mapProfile function f)

@[inline] def ofExec {α : Type} (setup : Setup) (caller : String) (act : Exec α) : Call α :=
  fun ⟨m, journal⟩ =>
    match act m with
    | .ok a m => .ok a ⟨m, journal⟩
    | .error fault m => .error (located setup caller fault m) ⟨m, journal⟩

@[inline] def settle {α : Type} (act : Call α) (s : Recorded Machine) :
    Except VmError α × Recorded Machine :=
  match act s with
  | .ok a s => (.ok a, s)
  | .error err s => (.error err, s)

def reset (setup : Setup) : Call Unit := fun ⟨m, journal⟩ =>
  if m.context.isRunning then .error (.busy setup.domain) ⟨m, journal⟩
  else .ok () ⟨m.restart setup,
    journal.write .debug "instance reset" [("domain", setup.domain.name)]⟩

/-- Answer a request of the host. `reenter` runs a function; `label` names the host code. -/
def answer (reenter : Nat → String → Call Unit) (setup : Setup) (label : String) :
    (op : HostOp) → Recorded Machine → op.Answer × Recorded Machine
  | .look => fun s => (s.state, s)
  | .memory op => fun ⟨⟨memory, context, profile⟩, journal⟩ =>
    let (a, memory) := op.apply memory
    (a, ⟨⟨memory, context, profile⟩, journal⟩)
  | .resetProfile => fun s => ((), s.map Machine.resetProfile)
  | .reset => settle (reset setup)
  | .call function => fun s =>
    match s.state.context.pending with
    | some err => (.error (.runtime err), s)
    | none => settle (reenter function label) s
  | .execute function caller => settle (reenter function caller)
  | .note text => fun ⟨m, journal⟩ => ((), ⟨m, journal.push (.note text)⟩)

def host {α : Type} (reenter : Nat → String → Call Unit) (setup : Setup) (label : String) :
    Host α → Recorded Machine → α × Recorded Machine
  | .done a, s => (a, s)
  | .ask op next, s =>
    match answer reenter setup label op s with
    | (a, s) => host reenter setup label (next a) s

/-- A nested call's error that has not been raised wins over what a builtin returns. -/
def raisePending (result : Except VmError Unit) : Call Unit := fun s =>
  match s.state.context.pending with
  | some err => .error (.runtime err) (mapContext (fun c => { c with pending := none }) s)
  | none =>
    match result with
    | .ok _ => .ok () s
    | .error err => .error err s

def builtin (reenter : Nat → String → Call Unit) (linked : Linked) (caller : String)
    (function argc : Nat) : Call Unit := fun s =>
  let setup := linked.setup
  let s := mapProfile s.state.context.currentFunction
    (fun p => { p with builtinCalls := p.builtinCalls + 1 }) s
  match linked.bound[function]? with
  | some (some b) =>
    if b.domains.contains setup.domain then
      let s := mapProfile function (fun p => { p with calls := p.calls + 1 }) s
      match host reenter setup (setup.image.functionName function) (b.run ⟨setup, function, argc⟩)
        s with
      | (result, s) => raisePending result s
    else .error (located setup caller (.unavailable b.name setup.domain b.domains) s.state) s
  | _ => .error (located setup caller (.unbound (setup.image.functionName function)) s.state) s

@[inline] def observe (setup : Setup) (current pc : Nat) (st : Statement) (s : Recorded Machine) :
    Recorded Machine :=
  let s := if setup.settings.traceStatements then
      s.write .trace st.text [("domain", setup.domain.name),
        ("function", setup.image.functionName current), ("statement", toString pc)]
    else s
  mapProfile current (fun p => { p with statements := p.statements + 1 }) s

/-- A call needs `enter`, then `body` until the stack is as high as before. When it fails its
frames are popped. The error of a nested call stays pending, that of an outermost one is put on
record. -/
def framed (setup : Setup) (body : String → Nat → Call Unit) (function : Nat) (caller : String) :
    Call Unit := fun s =>
  let mark := s.state.context.mark
  let s := mapContext Context.beginCall s
  match ofExec setup caller (Exec.enter setup function) s with
  | .ok _ s =>
    match body caller mark.depth s with
    | .ok _ s => .ok () (mapContext (·.endCall mark.outermost none) s)
    | .error err s => .error err (fail mark err s)
  | .error err s => .error err (fail mark err s)
where
  fail (mark : CallMark) (err : VmError) : Recorded Machine → Recorded Machine
    | ⟨⟨⟨globals, entities, strings⟩, context, profile⟩, journal⟩ =>
      let (context, globals) := Context.unwind mark (context, globals)
      let memory := ⟨globals, entities, strings⟩
      if mark.outermost then
        ⟨⟨memory, context.endCall true (some err), profile⟩,
          journal.write .warn "call aborted" [("domain", setup.domain.name), ("caller", caller),
            ("function", setup.image.functionName function), ("error", err.message)]⟩
      else ⟨⟨memory, (context.recordFault err).endCall false (some err), profile⟩, journal⟩

def runaway (setup : Setup) (current pc : Nat) : VmError :=
  .runtime (.runaway (setup.image.functionName current) pc setup.settings.maxInstructions)

/-- Run statements until the stack is as high as `exitDepth` again. Each statement is counted, and
the count has to stay within the settings' limit; `fuel` is what the limit leaves, so that nested
calls share it. -/
def loop (linked : Linked) (fuel : Nat) (caller : String) (exitDepth : Nat) : Call Unit := fun s =>
  let setup := linked.setup
  let pc := s.state.context.statement
  let current := s.state.context.currentFunction
  let s := mapContext Context.tick s
  if setup.settings.maxInstructions < s.state.context.instructions then
    .error (runaway setup current pc) s
  else match fuel with
  | 0 => .error (runaway setup current pc) s
  | fuel + 1 =>
    match setup.image.parts.statements[pc]? with
    | none => .error (located setup caller (.statementOutOfRange pc) s.state) s
    | some st =>
      match ofExec setup caller (Exec.dispatch setup st) (observe setup current pc st s) with
      | .error err s => .error err s
      | .ok .running s => loop linked fuel caller exitDepth s
      | .ok .returned s =>
        if s.state.context.depth ≤ exitDepth then .ok () s
        else loop linked fuel caller exitDepth
          (mapContext (fun c => c.setStatement (c.statement + 1)) s)
      | .ok (.builtin function argc) s =>
        match builtin (framed setup (loop linked fuel)) linked caller function argc s with
        | .error err s => .error (relocate setup caller err s.state) s
        | .ok _ s => loop linked fuel caller exitDepth (mapContext (·.setStatement (pc + 1)) s)

def execute (linked : Linked) (function : Nat) (caller : String) : Call Unit :=
  framed linked.setup (loop linked linked.setup.settings.maxInstructions) function caller

end Call

end GameVm
