import GameVm.Registry.Instance
import Mathlib.Tactic

/-! Histories of runs: what happens in a call, moment by moment. -/

namespace GameVm

/-- Something that happens while a machine runs, with the machine as it is then. -/
inductive Moment where
  | asked (op : HostOp) (m : Machine)
  /-- A statement is due, whether or not there is one and the limit allows it. -/
  | due (m : Machine)
  | dispatched (st : Statement) (m : Machine)
  /-- A frame is pushed; the machine is the one before. -/
  | pushed (function : Nat) (m : Machine)
  | hosted (function : Nat) (m : Machine)
  | ended (result : Except VmError Unit) (m : Machine)

def Moment.machine : Moment → Machine
  | .asked _ m | .due m | .dispatched _ m | .pushed _ m | .hosted _ m | .ended _ m => m

def Moment.dispatch? : Moment → Option (Statement × Machine)
  | .dispatched st m => some (st, m)
  | .asked .. | .due _ | .pushed .. | .hosted .. | .ended .. => none

lemma Moment.dispatch?_eq_some {moment : Moment} {st : Statement} {m : Machine}
    (hm : moment.dispatch? = some (st, m)) : moment = .dispatched st m := by
  cases moment with
  | dispatched st' m' =>
    cases hm
    rfl
  | _ => cases hm

abbrev History := List Moment

namespace Call

def target? (label : String) (m : Machine) : HostOp → Option (Nat × String)
  | .call function => if m.context.pending.isSome then none else some (function, label)
  | .execute function caller => some (function, caller)
  | _ => none

def hostHistory {α : Type} (reenter : Nat → String → Call Unit)
    (nested : Nat → String → Recorded Machine → History) (setup : Setup) (label : String) :
    Host α → Recorded Machine → History
  | .done _, _ => []
  | .ask op next, s =>
    .asked op s.state ::
      ((match target? label s.state op with
        | some (function, caller) =>
          let out := settle (reenter function caller) s
          nested function caller s ++ [.ended out.1 out.2.state]
        | none => []) ++
        hostHistory reenter nested setup label (next (answer reenter setup label op s).1)
          (answer reenter setup label op s).2)

def charged (s : Recorded Machine) : Recorded Machine :=
  mapProfile s.state.context.currentFunction
    (fun p => { p with builtinCalls := p.builtinCalls + 1 }) s

def started (function : Nat) (s : Recorded Machine) : Recorded Machine :=
  mapProfile function (fun p => { p with calls := p.calls + 1 }) (charged s)

def builtinHistory (reenter : Nat → String → Call Unit)
    (nested : Nat → String → Recorded Machine → History) (linked : Linked) (function argc : Nat)
    (s : Recorded Machine) : History :=
  match linked.bound[function]? with
  | some (some b) =>
    if b.domains.contains linked.setup.domain then
      .hosted function (started function s).state ::
        hostHistory reenter nested linked.setup (linked.setup.image.functionName function)
          (b.run ⟨linked.setup, function, argc⟩) (started function s)
    else []
  | _ => []

def pushes (m m' : Machine) : History :=
  if m.context.depth < m'.context.depth then [.pushed m'.context.currentFunction m] else []

def framedHistory (setup : Setup) (body : String → Nat → Recorded Machine → History)
    (function : Nat) (caller : String) (s : Recorded Machine) : History :=
  match ofExec setup caller (Exec.enter setup function) (mapContext Context.beginCall s) with
  | .ok _ s' =>
    .pushed function (mapContext Context.beginCall s).state :: body caller s.state.context.depth s'
  | .error .. => []

def ready (setup : Setup) (st : Statement) (s : Recorded Machine) : Recorded Machine :=
  observe setup s.state.context.currentFunction s.state.context.statement st
    (mapContext Context.tick s)

def loopHistory (linked : Linked) (fuel : Nat) (caller : String) (exitDepth : Nat)
    (s : Recorded Machine) : History :=
  .due s.state ::
    if linked.setup.settings.maxInstructions < s.state.context.instructions + 1 then []
    else match fuel with
    | 0 => []
    | fuel + 1 =>
      match linked.setup.image.parts.statements[s.state.context.statement]? with
      | none => []
      | some st =>
        .dispatched st (ready linked.setup st s).state ::
          match ofExec linked.setup caller (Exec.dispatch linked.setup st)
            (ready linked.setup st s) with
          | .error .. => []
          | .ok .running s' =>
            pushes (ready linked.setup st s).state s'.state ++
              loopHistory linked fuel caller exitDepth s'
          | .ok .returned s' =>
            if s'.state.context.depth ≤ exitDepth then []
            else loopHistory linked fuel caller exitDepth
              (mapContext (fun c => c.setStatement (c.statement + 1)) s')
          | .ok (.builtin function argc) s' =>
            builtinHistory (framed linked.setup (loop linked fuel))
              (framedHistory linked.setup (loopHistory linked fuel)) linked function argc s' ++
            match builtin (framed linked.setup (loop linked fuel)) linked caller function argc
              s' with
            | .error .. => []
            | .ok _ s'' => loopHistory linked fuel caller exitDepth
              (mapContext (·.setStatement (s.state.context.statement + 1)) s'')

/-- What happens in a call, up to the point where it returns or fails. -/
def history (linked : Linked) (function : Nat) (caller : String) (s : Recorded Machine) :
    History :=
  framedHistory linked.setup (loopHistory linked linked.setup.settings.maxInstructions) function
    caller s

end Call

def Instance.history {α : Type} (i : Instance) (code : Host α) (journal : Journal) : History :=
  Call.hostHistory (Call.execute i.linked) (Call.history i.linked) i.linked.setup "host" code
    ⟨i.machine, journal⟩

end GameVm
