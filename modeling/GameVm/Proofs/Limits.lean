import GameVm.Proofs.Determinism
import GameVm.Proofs.PendingFaults

/-! Raising the limits of a machine changes nothing about the calls that do not hit them. -/

namespace GameVm

/-- How much a call may use: statements, frames and cells for saved locals. -/
structure Limits where
  instructions : Nat
  callDepth : Nat
  localCells : Nat

instance : LE Limits where
  le a b := a.instructions ≤ b.instructions ∧ a.callDepth ≤ b.callDepth ∧
    a.localCells ≤ b.localCells

def Settings.limits (s : Settings) : Limits :=
  ⟨s.maxInstructions, s.maxCallDepth, s.localStackSize⟩

def Settings.withLimits (s : Settings) (limits : Limits) : Settings :=
  { s with
    maxInstructions := limits.instructions
    maxCallDepth := limits.callDepth
    localStackSize := limits.localCells }

def Setup.withLimits (setup : Setup) (limits : Limits) : Setup :=
  { setup with settings := setup.settings.withLimits limits }

def Linked.withLimits (linked : Linked) (limits : Limits) : Linked :=
  { linked with setup := linked.setup.withLimits limits }

def Context.withLimits (c : Context) (limits : Limits) : Context :=
  { c with maxDepth := limits.callDepth, localLimit := limits.localCells }

def Machine.withLimits (m : Machine) (limits : Limits) : Machine :=
  { m with context := m.context.withLimits limits }

def Recorded.withLimits (s : Recorded Machine) (limits : Limits) : Recorded Machine :=
  ⟨s.state.withLimits limits, s.journal⟩

def Fault.HitsLimit : Fault → Prop
  | .frame (.stackOverflow _) | .frame (.localsOverflow ..) => True
  | _ => False

def RuntimeError.HitsLimit : RuntimeError → Prop
  | .runaway .. => True
  | .execution err => err.fault.HitsLimit
  | .abort _ => False

def Context.Within (limits : Limits) (c : Context) : Prop :=
  c.maxDepth ≤ limits.callDepth ∧ c.localLimit ≤ limits.localCells

namespace Context

variable (limits : Limits)

lemma pop_withLimits (c : Context) (globals : Globals) :
    pop (c.withLimits limits, globals) =
      match pop (c, globals) with
      | .ok frame s => .ok frame (s.1.withLimits limits, s.2)
      | .error err s => .error err (s.1.withLimits limits, s.2) := by
  simp only [pop, withLimits]
  cases c.frames.back? with
  | none => rfl
  | some frame =>
    dsimp only
    cases globals.check frame.parmStart frame.locals <;> rfl

lemma within_pop {limits : Limits} {c : Context} {globals : Globals} (hw : c.Within limits)
    {frame : Frame} {s : Context × Globals} (hp : pop (c, globals) = .ok frame s) :
    s.1.Within limits := by
  simp only [pop] at hp
  cases hf : c.frames.back? with
  | none => simp [hf] at hp
  | some top =>
    simp only [hf] at hp
    cases hg : globals.check top.parmStart top.locals with
    | error err => simp [hg] at hp
    | ok _ =>
      rw [hg] at hp
      cases hp
      exact hw

lemma popMany_withLimits (n : Nat) (s : Context × Globals) :
    popMany n (s.1.withLimits limits, s.2) =
      ((popMany n s).1.withLimits limits, (popMany n s).2) := by
  induction n generalizing s with
  | zero => rfl
  | succ n ih =>
    obtain ⟨c, globals⟩ := s
    rw [popMany, popMany, pop_withLimits]
    cases pop (c, globals) with
    | ok frame s => exact ih s
    | error err s => rfl

lemma unwind_withLimits (mark : CallMark) (s : Context × Globals) :
    unwind mark (s.1.withLimits limits, s.2) =
      ((unwind mark s).1.withLimits limits, (unwind mark s).2) := by
  simp only [unwind]
  rw [show (s.1.withLimits limits).depth = s.1.depth from rfl, popMany_withLimits]
  rfl

lemma beginCall_withLimits (c : Context) :
    (c.withLimits limits).beginCall = c.beginCall.withLimits limits := by
  have ha : (c.withLimits limits).activeCalls = c.activeCalls := rfl
  rw [beginCall, beginCall, ha]
  split_ifs <;> rfl

lemma endCall_withLimits (c : Context) (outermost : Bool) (err : Option VmError) :
    (c.withLimits limits).endCall outermost err = (c.endCall outermost err).withLimits limits := by
  cases outermost <;> rfl

lemma recordFault_withLimits (c : Context) (err : VmError) :
    (c.withLimits limits).recordFault err = (c.recordFault err).withLimits limits := by
  have hp : (c.withLimits limits).pending = c.pending := rfl
  rw [recordFault, recordFault, hp]
  cases c.pending <;> rfl

end Context

namespace Exec

variable {α β : Type} {limits : Limits} {setup : Setup}

/-- Whatever `act` does with a machine it does with one of larger limits, unless it hits a limit. -/
def Ignores (limits : Limits) (act : Exec α) : Prop :=
  ∀ m, m.context.Within limits →
    match act m with
    | .ok a m' => m'.context.Within limits ∧
      act (m.withLimits limits) = .ok a (m'.withLimits limits)
    | .error fault m' => fault.HitsLimit ∨
      act (m.withLimits limits) = .error fault (m'.withLimits limits)

lemma ignores_pure (a : α) : Ignores limits (pure a) := fun _ hm => ⟨hm, rfl⟩

lemma ignores_throw (fault : Fault) : Ignores limits (throw fault : Exec α) :=
  fun _ _ => .inr rfl

lemma ignores_look {f : Machine → Except AccessError α}
    (hf : ∀ m, f (m.withLimits limits) = f m) : Ignores limits (look f) := by
  intro m hm
  rw [look, look, hf]
  cases f m with
  | ok a => exact ⟨hm, rfl⟩
  | error err => exact .inr rfl

lemma ignores_get_bind {next : Machine → Exec α}
    (h : ∀ m, next (m.withLimits limits) = next m) (hn : ∀ m, Ignores limits (next m)) :
    Ignores limits (get >>= next) := by
  intro m hm
  have hget : (get >>= next) (m.withLimits limits) = next m (m.withLimits limits) :=
    congrFun (h m) _
  rw [hget]
  exact hn m m hm

lemma Ignores.bind {act : Exec β} {next : β → Exec α} (h : Ignores limits act)
    (hn : ∀ b, Ignores limits (next b)) : Ignores limits (act >>= next) := by
  intro m hm
  have ha := h m hm
  simp only [Bind.bind, EStateM.bind]
  cases hr : act m with
  | ok b m' =>
    rw [hr] at ha
    obtain ⟨hm', ha⟩ := ha
    rw [ha]
    exact hn b m' hm'
  | error fault m' =>
    rw [hr] at ha
    rcases ha with ha | ha
    · exact .inl ha
    · rw [ha]
      exact .inr rfl

section

variable {act : Exec α} {m m' : Machine}

lemma Ignores.ok (h : Ignores limits act) (hm : m.context.Within limits) {a : α}
    (hr : act m = .ok a m') : act (m.withLimits limits) = .ok a (m'.withLimits limits) := by
  have ha := h m hm
  rw [hr] at ha
  exact ha.2

lemma Ignores.error (h : Ignores limits act) (hm : m.context.Within limits) {fault : Fault}
    (hr : act m = .error fault m') :
    fault.HitsLimit ∨ act (m.withLimits limits) = .error fault (m'.withLimits limits) := by
  have ha := h m hm
  rw [hr] at ha
  exact ha

end

lemma ignores_onMemory (act : Access Memory α) : Ignores limits (onMemory act) := by
  intro m hm
  simp only [onMemory, Machine.withLimits]
  cases act m.memory with
  | ok a memory => exact ⟨hm, rfl⟩
  | error err memory => exact .inr rfl

lemma ignores_setStatement (statement : Nat) : Ignores limits (setStatement statement) :=
  fun _ hm => ⟨hm, rfl⟩

lemma ignores_next : Ignores limits next := fun _ hm => ⟨hm, rfl⟩

lemma ignores_cell (i : Nat) : Ignores limits (cell i) := ignores_look fun _ => rfl

lemma ignores_vector (i : Nat) : Ignores limits (vector i) := ignores_look fun _ => rfl

lemma ignores_cells (i n : Nat) : Ignores limits (cells i n) := ignores_look fun _ => rfl

lemma ignores_setCell (i : Nat) (v : Cell) : Ignores limits (setCell i v) := ignores_onMemory _

lemma ignores_setCells (i : Nat) (vs : List Cell) : Ignores limits (setCells i vs) :=
  ignores_onMemory _

lemma ignores_entity (i : Nat) : Ignores limits (entity i) :=
  (ignores_cell i).bind fun _ => ignores_look fun _ => rfl

lemma ignores_resolve (handle : Int32) : Ignores limits (resolve handle) :=
  ignores_look fun _ => rfl

lemma ignores_guardWorld (isWorld : Bool) : Ignores limits (guardWorld setup isWorld) := by
  rw [guardWorld]
  split
  · exact ignores_throw _
  · exact ignores_pure _

lemma ignores_stringsEqual (x y : Int32) : Ignores limits (stringsEqual x y) := by
  rw [stringsEqual]
  split
  · exact ignores_pure _
  · exact (ignores_resolve x).bind fun _ => (ignores_resolve y).bind fun _ => ignores_pure _

lemma ignores_stringEmpty (x : Int32) : Ignores limits (stringEmpty x) := by
  rw [stringEmpty]
  split
  · exact ignores_pure _
  · exact (ignores_resolve x).bind fun _ => ignores_pure _

lemma ignores_leaveResult (a : Nat) : Ignores limits (leaveResult a) := by
  rw [leaveResult]
  split
  · exact ignores_pure _
  · exact ignores_get_bind (fun _ => rfl) fun _ => ignores_setCells _ _

lemma ignores_jump (operand : UInt16) : Ignores limits (jump setup operand) := by
  refine ignores_get_bind (fun _ => rfl) fun m => ?_
  split
  · split
    · exact (ignores_setStatement _).bind fun _ => ignores_pure _
    · exact ignores_throw _
  · exact ignores_throw _

lemma ignores_onFrames {act : Framing α}
    (h : ∀ c globals, c.Within limits →
      match act (c, globals) with
      | .ok a s => s.1.Within limits ∧
        act (c.withLimits limits, globals) = .ok a (s.1.withLimits limits, s.2)
      | .error err s => Fault.HitsLimit (.frame err) ∨
        act (c.withLimits limits, globals) = .error err (s.1.withLimits limits, s.2)) :
    Ignores limits (onFrames act) := by
  intro m hm
  have hact := h m.context m.memory.globals hm
  simp only [onFrames, Machine.withLimits]
  cases hr : act (m.context, m.memory.globals) with
  | ok a s =>
    rw [hr] at hact
    obtain ⟨hs, hact⟩ := hact
    rw [hact]
    exact ⟨hs, rfl⟩
  | error err s =>
    rw [hr] at hact
    rcases hact with hact | hact
    · exact .inl hact
    · rw [hact]
      exact .inr rfl

lemma ignores_push (function : Nat) (entry : FunctionEntry) :
    Ignores limits (onFrames (Context.push function entry)) := by
  refine ignores_onFrames fun c globals ⟨hdepth, hlocals⟩ => ?_
  simp only [Context.push, Context.withLimits, Context.depth]
  by_cases hd : c.maxDepth ≤ c.frames.size
  · rw [if_pos hd]
    exact .inl trivial
  by_cases hl : c.localLimit - c.saved.size < entry.locals.toNat
  · rw [if_neg hd, if_pos hl]
    exact .inl trivial
  · have hd' : ¬ limits.callDepth ≤ c.frames.size := by omega
    have hl' : ¬ limits.localCells - c.saved.size < entry.locals.toNat := by omega
    simp only [hd, hl, hd', hl', if_false]
    cases globals.read entry.parmStart.toNat entry.locals.toNat with
    | error err => exact .inr rfl
    | ok window =>
      dsimp only
      cases Context.copyParms 0 entry.parmStart.toNat entry.parms globals with
      | ok a globals' => exact ⟨⟨hdepth, hlocals⟩, rfl⟩
      | error err globals' => exact .inr rfl

lemma ignores_pop : Ignores limits (onFrames Context.pop) := by
  refine ignores_onFrames fun c globals hw => ?_
  rw [Context.pop_withLimits]
  cases hp : Context.pop (c, globals) with
  | error err s => exact .inr rfl
  | ok frame s => exact ⟨Context.within_pop hw hp, rfl⟩

lemma ignores_enter (function : Nat) : Ignores limits (enter setup function) := by
  rw [enter]
  split
  · exact fun _ _ => .inr rfl
  · split
    · split
      · exact fun _ _ => .inr rfl
      · exact (ignores_push _ _).bind fun _ _ hm => ⟨hm, rfl⟩
    · exact ignores_throw _

lemma ignores_loadField (st : Statement) (width : Width) :
    Ignores limits (loadField st width) := by
  refine (ignores_entity _).bind fun entity => (ignores_cell _).bind fun field => ?_
  exact (ignores_look fun _ => rfl).bind fun value => ignores_setCells _ _

lemma ignores_address (st : Statement) : Ignores limits (address setup st) := by
  refine (ignores_entity _).bind fun entity => (ignores_guardWorld _).bind fun _ => ?_
  refine (ignores_cell _).bind fun field => ?_
  exact (ignores_look fun _ => rfl).bind fun pointer => ignores_setCell _ _

lemma ignores_storeIndirect (st : Statement) (width : Width) :
    Ignores limits (storeIndirect setup st width) := by
  refine (ignores_cell _).bind fun pointer => ignores_get_bind (fun _ => rfl) fun m => ?_
  refine (ignores_guardWorld _).bind fun _ => (ignores_cells _ _).bind fun value => ?_
  exact ignores_onMemory _

lemma ignores_loadIndirect (st : Statement) (width : Width) :
    Ignores limits (loadIndirect st width) := by
  refine (ignores_cell _).bind fun pointer => ?_
  exact (ignores_look fun _ => rfl).bind fun value => ignores_setCells _ _

lemma ignores_state (st : Statement) : Ignores limits (state setup st) := by
  rw [state]
  split
  · refine (ignores_entity _).bind fun entity => (ignores_guardWorld _).bind fun _ => ?_
    refine (ignores_cell _).bind fun frame => (ignores_cell _).bind fun think => ?_
    refine (ignores_cell _).bind fun time => (ignores_onMemory _).bind fun _ => ?_
    exact (ignores_onMemory _).bind fun _ => ignores_onMemory _
  · exact ignores_throw _

lemma ignores_call (a argc : Nat) : Ignores limits (call setup a argc) := by
  refine (ignores_cell a).bind fun v => ?_
  dsimp only
  split
  · exact ignores_pure _
  · exact (ignores_enter _).bind fun _ => ignores_pure _

theorem ignores_perform (st : Statement) (action : Action) :
    Ignores limits (perform setup st action) := by
  cases action with
  | leave =>
    exact (ignores_leaveResult _).bind fun _ => ignores_pop.bind fun _ => ignores_pure _
  | cell1 f => exact (ignores_cell _).bind fun x => (ignores_setCell _ _).bind fun _ => ignores_next
  | cell2 f =>
    refine (ignores_cell _).bind fun x => (ignores_cell _).bind fun y => ?_
    exact (ignores_setCell _ _).bind fun _ => ignores_next
  | vec1 f =>
    exact (ignores_vector _).bind fun v => (ignores_setCell _ _).bind fun _ => ignores_next
  | vec2 f =>
    refine (ignores_vector _).bind fun v => (ignores_vector _).bind fun w => ?_
    exact (ignores_setCell _ _).bind fun _ => ignores_next
  | vec3 f =>
    refine (ignores_vector _).bind fun v => (ignores_vector _).bind fun w => ?_
    exact (ignores_setCells _ _).bind fun _ => ignores_next
  | scaleRight f =>
    refine (ignores_cell _).bind fun s => (ignores_vector _).bind fun v => ?_
    exact (ignores_setCells _ _).bind fun _ => ignores_next
  | scaleLeft f =>
    refine (ignores_vector _).bind fun v => (ignores_cell _).bind fun s => ?_
    exact (ignores_setCells _ _).bind fun _ => ignores_next
  | divide f =>
    refine (ignores_cell _).bind fun x => (ignores_cell _).bind fun y => ?_
    split
    · exact fun _ _ => .inr rfl
    · exact (ignores_setCell _ _).bind fun _ => ignores_next
  | stringsEqual expected =>
    refine (ignores_cell _).bind fun x => (ignores_cell _).bind fun y => ?_
    refine (ignores_stringsEqual _ _).bind fun equal => ?_
    exact (ignores_setCell _ _).bind fun _ => ignores_next
  | stringEmpty =>
    refine (ignores_cell _).bind fun x => (ignores_stringEmpty _).bind fun empty => ?_
    exact (ignores_setCell _ _).bind fun _ => ignores_next
  | loadField width => exact (ignores_loadField _ _).bind fun _ => ignores_next
  | address => exact (ignores_address _).bind fun _ => ignores_next
  | copy width =>
    refine (ignores_cells _ _).bind fun value => ?_
    exact (ignores_setCells _ _).bind fun _ => ignores_next
  | storeIndirect width => exact (ignores_storeIndirect _ _).bind fun _ => ignores_next
  | globalAddress => exact (ignores_setCell _ _).bind fun _ => ignores_next
  | loadIndirect width => exact (ignores_loadIndirect _ _).bind fun _ => ignores_next
  | branch whenSet =>
    refine (ignores_cell _).bind fun x => ?_
    split
    · exact ignores_jump _
    · exact ignores_next
  | goto => exact ignores_jump _
  | call argc => exact ignores_call _ _
  | state => exact (ignores_state _).bind fun _ => ignores_next

lemma perform_withLimits (setup : Setup) (limits : Limits) (st : Statement) (action : Action) :
    perform (setup.withLimits limits) st action = perform setup st action := by
  cases action <;> rfl

end Exec

namespace Call

section WithLimits

variable (limits : Limits)

lemma ready_withLimits (setup : Setup) (st : Statement) (s : Recorded Machine) :
    ready (setup.withLimits limits) st (s.withLimits limits) =
      (ready setup st s).withLimits limits := by
  simp only [ready, observe]
  rw [show (setup.withLimits limits).settings.traceStatements = setup.settings.traceStatements
    from rfl]
  split_ifs <;> rfl

lemma conclude_withLimits (setup : Setup) (function : Nat) (caller : String) (mark : CallMark)
    (r : Except VmError Unit) (s : Recorded Machine) :
    conclude (setup.withLimits limits) function caller mark r (s.withLimits limits) =
      (conclude setup function caller mark r s).withLimits limits := by
  cases r with
  | ok _ =>
    have he := Context.endCall_withLimits limits s.state.context mark.outermost none
    exact congrArg (fun c => Recorded.mk { s.state with context := c } s.journal) he
  | error err =>
    obtain ⟨⟨⟨globals, entities, strings⟩, context, profile⟩, journal⟩ := s
    have hu := Context.unwind_withLimits limits mark (context, globals)
    simp only [conclude, framed.fail, Recorded.withLimits, Machine.withLimits]
    rw [hu]
    dsimp only
    rw [Context.endCall_withLimits, Context.recordFault_withLimits, Context.endCall_withLimits]
    split_ifs <;> rfl

lemma raisePending_withLimits (r : Except VmError Unit) (s : Recorded Machine) :
    settle (raisePending r) (s.withLimits limits) =
      ((settle (raisePending r) s).1, (settle (raisePending r) s).2.withLimits limits) := by
  have hp : (s.withLimits limits).state.context.pending = s.state.context.pending := rfl
  simp only [settle, raisePending, hp]
  cases s.state.context.pending with
  | some err => rfl
  | none => cases r <;> rfl

end WithLimits

end Call

def HostOp.withLimits (limits : Limits) : (op : HostOp) → op.Answer → op.Answer
  | .look => fun m => Machine.withLimits m limits
  | .memory _ | .resetProfile | .reset | .call _ | .execute .. | .note _ => id

/-- The code goes on in the same way when it sees other limits. -/
def Host.IgnoresLimits {α : Type} : Host α → Prop
  | .done _ => True
  | .ask op next => (∀ limits a, next (op.withLimits limits a) = next a) ∧
    ∀ a, (next a).IgnoresLimits

def Builtin.IgnoresLimits (b : Builtin) : Prop :=
  ∀ site : CallSite, (b.run site).IgnoresLimits ∧
    ∀ limits, b.run { site with setup := site.setup.withLimits limits } = b.run site

def Linked.IgnoresLimits (linked : Linked) : Prop :=
  ∀ b, some b ∈ linked.bound → b.IgnoresLimits

namespace Call

lemma answer_withLimits (limits : Limits) {setup : Setup} {label : String} {op : HostOp}
    {s : Recorded Machine} (ht : target? label s.state op = none) :
    answer noCalls (setup.withLimits limits) label op (s.withLimits limits) =
      (op.withLimits limits (answer noCalls setup label op s).1,
        (answer noCalls setup label op s).2.withLimits limits) := by
  cases op with
  | look => rfl
  | memory op => rfl
  | resetProfile => rfl
  | reset =>
    obtain ⟨m, journal⟩ := s
    have hr : (m.withLimits limits).context.isRunning = m.context.isRunning := rfl
    simp only [answer, settle, reset, Recorded.withLimits, hr]
    cases m.context.isRunning <;> rfl
  | call function =>
    cases hp : s.state.context.pending with
    | none => simp [target?, hp] at ht
    | some err =>
      have hp' : (s.withLimits limits).state.context.pending = some err := hp
      simp only [answer, hp, hp']
      rfl
  | execute function caller => cases ht
  | note text => rfl

def HitsLimit (r : Except VmError Unit) : Prop := ∃ err, fault? r = some err ∧ err.HitsLimit

section Runs

variable {linked : Linked} {limits : Limits} {s s' : Recorded Machine} {h : History}
  {r : Except VmError Unit}

lemma hitsLimit_located {fault : Fault} (hf : fault.HitsLimit) (setup : Setup) (caller : String)
    (m : Machine) : HitsLimit (.error (located setup caller fault m)) := by
  rw [located]
  split <;> exact ⟨_, rfl, hf⟩

lemma HitsLimit.relocate {err : VmError} (he : HitsLimit (.error err)) (setup : Setup)
    (caller : String) (m : Machine) : HitsLimit (.error (relocate setup caller err m)) := by
  cases err with
  | access err =>
    obtain ⟨e, he, -⟩ := he
    cases he
  | _ => exact he

lemma Runs.call_pending (hc : linked.setup.Checked) {function : Nat} {caller : String}
    (hr : Runs linked (.call function caller) s h r s') (hs : s.state.AtHost linked.setup)
    (hpos : 0 < s.state.context.activeCalls) (hp : s.state.context.pending = none) :
    s'.state.context.pending = fault? r := by
  have hb : s.state.context.beginCall.pending = none := by
    rw [Context.beginCall_eq _ hpos]
    exact hp
  cases hr with
  | @refused _ _ _ fault m he =>
    obtain rfl := enter_error hc hs he
    have hcon := (refused_concluded hs function caller
      (located linked.setup caller fault (mapContext Context.beginCall s).state)).1
    have hpend := (hcon.nested hpos.ne').2
    rw [hb, Option.none_or] at hpend
    exact hpend
  | @entered _ _ _ s₁ m h r he hl =>
    obtain ⟨entry, globals, -, rfl, hin⟩ := enter_ok hc hs he
    have hends := hl.outcome hc _ _ _ (Context.beginCall_depth _) hin
    have hraised : Raised _ _ _ _ := hl.faults hc hends.moments hin.running
    -- The loop has either kept the pending error, of which there was none, or raised one.
    have hnone : s₁.state.context.pending = none := by
      rcases hraised with ⟨-, hkept⟩ | ⟨err, -, -, hraised⟩
      · exact hkept.trans hb
      · exact hraised
    rw [((hends.concluded function caller).1.nested hpos.ne').2, hnone, Option.none_or]

def Unaffected (linked : Linked) (limits : Limits) (act : Activity) (s : Recorded Machine)
    (r : Except VmError Unit) (s' : Recorded Machine) : Prop :=
  ∃ h, Runs (linked.withLimits limits) act (s.withLimits limits) h r (s'.withLimits limits)

def LimitOutcome (linked : Linked) (limits : Limits) :
    Activity → Recorded Machine → Except VmError Unit → Recorded Machine → Prop
  | .call function caller, s, r, s' => s.state.AtHost linked.setup →
    HitsLimit r ∨ Unaffected linked limits (.call function caller) s r s'
  | .loop caller exitDepth, s, r, s' => 0 < s.state.context.activeCalls →
    HitsLimit r ∨ Unaffected linked limits (.loop caller exitDepth) s r s'
  | .builtin caller function argc, s, r, s' => 0 < s.state.context.activeCalls →
    HitsLimit r ∨ Unaffected linked limits (.builtin caller function argc) s r s'
  | .host label code, s, r, s' => 0 < s.state.context.activeCalls → code.IgnoresLimits →
    (∃ err, s'.state.context.pending = some err ∧ err.HitsLimit) ∨
      Unaffected linked limits (.host label code) s r s'

lemma Fetches.withLimits {st : Statement} (hf : Fetches linked s st)
    (hl : linked.setup.settings.limits ≤ limits) :
    Fetches (linked.withLimits limits) (s.withLimits limits) st :=
  ⟨Nat.lt_of_lt_of_le hf.1 hl.1, hf.2⟩

lemma within_of_sound {m : Machine} (hs : m.Sound linked.setup)
    (hl : linked.setup.settings.limits ≤ limits) : m.context.Within limits := by
  rw [Context.Within, hs.context.maxDepth, hs.context.localLimit]
  exact hl.2

lemma dispatch_ok_withLimits {st : Statement} {flow : Flow} {m : Machine}
    (hs : (ready linked.setup st s).state.Sound linked.setup)
    (hl : linked.setup.settings.limits ≤ limits)
    (hd : Exec.dispatch linked.setup st (ready linked.setup st s).state = .ok flow m) :
    Exec.dispatch (linked.withLimits limits).setup st
        (ready (linked.withLimits limits).setup st (s.withLimits limits)).state =
      .ok flow (m.withLimits limits) := by
  rw [Exec.dispatch, Linked.withLimits, ready_withLimits, Exec.perform_withLimits]
  exact (Exec.ignores_perform _ _).ok (within_of_sound hs hl) hd

lemma dispatch_error_withLimits {st : Statement} {fault : Fault} {m : Machine}
    (hs : (ready linked.setup st s).state.Sound linked.setup)
    (hl : linked.setup.settings.limits ≤ limits)
    (hd : Exec.dispatch linked.setup st (ready linked.setup st s).state = .error fault m) :
    fault.HitsLimit ∨ Exec.dispatch (linked.withLimits limits).setup st
        (ready (linked.withLimits limits).setup st (s.withLimits limits)).state =
      .error fault (m.withLimits limits) := by
  rw [Exec.dispatch, Linked.withLimits, ready_withLimits, Exec.perform_withLimits]
  exact (Exec.ignores_perform _ _).error (within_of_sound hs hl) hd

lemma ready_journal_withLimits (st : Statement) :
    (ready (linked.withLimits limits).setup st (s.withLimits limits)).journal =
      (ready linked.setup st s).journal := by
  rw [Linked.withLimits, ready_withLimits, Recorded.withLimits]

lemma enter_withLimits {function : Nat} :
    Exec.enter (linked.withLimits limits).setup function
        (mapContext Context.beginCall (s.withLimits limits)).state =
      Exec.enter linked.setup function
        ((mapContext Context.beginCall s).state.withLimits limits) := by
  have hc := Context.beginCall_withLimits limits s.state.context
  exact congrArg (fun c => Exec.enter linked.setup function { s.state with context := c }) hc

lemma Unaffected.of_ready {act : Activity} {st : Statement} {m : Machine}
    (hu : Unaffected linked limits act ⟨m, (ready linked.setup st s).journal⟩ r s') :
    ∃ h, Runs (linked.withLimits limits) act ⟨m.withLimits limits,
      (ready (linked.withLimits limits).setup st (s.withLimits limits)).journal⟩ h r
      (s'.withLimits limits) := by
  rw [ready_journal_withLimits]
  exact hu

lemma hosted_withLimits {function argc : Nat} {b : Builtin} {caller : String}
    {r' : Except VmError Unit} {s'' : Recorded Machine} (hb : linked.IgnoresLimits)
    (hsome : linked.bound[function]? = some (some b))
    (hd : b.domains.contains linked.setup.domain = true)
    (hrun : Unaffected linked limits (.host (linked.setup.image.functionName function)
      (b.run ⟨linked.setup, function, argc⟩)) (started function s) r s')
    (hraise : settle (raisePending r) s' = (r', s'')) :
    Unaffected linked limits (.builtin caller function argc) s r' s'' := by
  obtain ⟨h, hrun⟩ := hrun
  have hsite := (hb b (Array.mem_of_getElem? hsome) ⟨linked.setup, function, argc⟩).2 limits
  have hraise' : settle (raisePending r) (s'.withLimits limits) = (r', s''.withLimits limits) := by
    rw [raisePending_withLimits, hraise]
  rw [← hsite] at hrun
  exact ⟨_, .hosted hsome hd hrun hraise'⟩

theorem Runs.withLimits (hc : linked.setup.Checked) (hl : linked.setup.settings.limits ≤ limits)
    (hb : linked.IgnoresLimits) {act : Activity} (hr : Runs linked act s h r s')
    (hm : ∀ moment ∈ h, Calm linked.setup moment) : LimitOutcome linked limits act s r s' := by
  induction hr with
  | @refused function caller s fault m he =>
    intro hs
    have hsound := (inCall_beginCall hs).sound
    rcases (Exec.ignores_enter function).error (within_of_sound hsound hl) he with hhit | he'
    · exact .inl (hitsLimit_located hhit ..)
    · have hrun : Runs (linked.withLimits limits) (.call function caller) _ _ _ _ :=
        .refused (enter_withLimits.trans he')
      have hcon := conclude_withLimits limits linked.setup function caller s.state.context.mark
        (.error (located linked.setup caller fault m)) ⟨m, s.journal⟩
      exact .inr ⟨_, hcon ▸ hrun⟩
  | @entered function caller s s' m h r he hrun ih =>
    intro hs
    have hsound := (inCall_beginCall hs).sound
    have he' := (Exec.ignores_enter function).ok (within_of_sound hsound hl) he
    obtain ⟨entry, globals, -, rfl, hin⟩ := enter_ok hc hs he
    rcases ih (List.forall_mem_cons.mp hm).2 hin.running with hhit | ⟨h', hrun'⟩
    · exact .inl hhit
    · have hcall : Runs (linked.withLimits limits) (.call function caller) _ _ _ _ :=
        .entered (enter_withLimits.trans he') hrun'
      have hcon := conclude_withLimits limits linked.setup function caller s.state.context.mark r s'
      exact .inr ⟨_, hcon ▸ hcall⟩
  | runaway hi => exact fun _ => .inl ⟨_, rfl, trivial⟩
  | @fellOff caller exitDepth s hi hst =>
    intro hpos
    exact .inr ⟨_, .fellOff (Nat.lt_of_lt_of_le hi hl.1) hst⟩
  | @faulted caller exitDepth s st fault m hf hd =>
    intro hpos
    simp only [List.forall_mem_cons] at hm
    rcases dispatch_error_withLimits hm.2.1.1.1 hl hd with hhit | hd'
    · exact .inl (hitsLimit_located hhit ..)
    · have hrun : Runs _ (.loop caller exitDepth) _ _ _ _ := .faulted (hf.withLimits hl) hd'
      rw [ready_journal_withLimits] at hrun
      exact .inr ⟨_, hrun⟩
  | @advanced caller exitDepth s s' st m h r hf hd hrun ih =>
    intro hpos
    simp only [List.forall_mem_cons, List.forall_mem_append] at hm
    have he := (effect_of_ok hc hm.2.1.1 hd).sameCall
    rw [← ready_activeCalls linked.setup st, ← he.activeCalls] at hpos
    rcases ih hm.2.2.2 hpos with hhit | hu
    · exact .inl hhit
    · obtain ⟨h', hrun'⟩ := hu.of_ready
      exact .inr ⟨_, .advanced (hf.withLimits hl) (dispatch_ok_withLimits hm.2.1.1.1 hl hd) hrun'⟩
  | @exited caller exitDepth s st m hf hd hx =>
    intro hpos
    simp only [List.forall_mem_cons] at hm
    have hrun : Runs _ (.loop caller exitDepth) _ _ _ _ :=
      .exited (hf.withLimits hl) (dispatch_ok_withLimits hm.2.1.1.1 hl hd) hx
    rw [ready_journal_withLimits] at hrun
    exact .inr ⟨_, hrun⟩
  | @resumed caller exitDepth s s' st m h r hf hd hx hrun ih =>
    intro hpos
    simp only [List.forall_mem_cons] at hm
    have he := (effect_of_ok hc hm.2.1.1 hd).sameCall
    rw [← ready_activeCalls linked.setup st, ← he.activeCalls] at hpos
    rcases ih hm.2.2 hpos with hhit | hu
    · exact .inl hhit
    · obtain ⟨h', hrun'⟩ := hu.of_ready
      exact .inr ⟨_, .resumed (hf.withLimits hl) (dispatch_ok_withLimits hm.2.1.1.1 hl hd) hx hrun'⟩
  | @builtinFailed caller exitDepth s s' st m function argc h err hf hd hrun ih =>
    intro hpos
    simp only [List.forall_mem_cons] at hm
    have he := (effect_of_ok hc hm.2.1.1 hd).sameCall
    rw [← ready_activeCalls linked.setup st, ← he.activeCalls] at hpos
    rcases ih hm.2.2 hpos with hhit | hu
    · exact .inl (hhit.relocate ..)
    · obtain ⟨h', hrun'⟩ := hu.of_ready
      exact .inr ⟨_, .builtinFailed (hf.withLimits hl)
        (dispatch_ok_withLimits hm.2.1.1.1 hl hd) hrun'⟩
  | @builtinReturned caller exitDepth s s' s'' st m function argc h h' r hf hd hrun hnext ihb ih =>
    intro hpos
    simp only [List.forall_mem_cons, List.forall_mem_append] at hm
    obtain rfl := builtin_eq (effect_of_ok hc hm.2.1.1 hd)
    have hat : (ready linked.setup st s).state.AtHost linked.setup :=
      ⟨hm.2.1.1.1, fun _ => fetches_lt hf⟩
    have hn : Neutral linked.setup _ _ _ := hrun.outcome hc hat
    rw [← ready_activeCalls linked.setup st] at hpos
    rcases ihb hm.2.2.1 hpos with ⟨err, hnone, -⟩ | hu
    · cases hnone
    · rcases ih hm.2.2.2 (hn.stack.activeCalls ▸ hpos) with hhit | ⟨h₂, hnext'⟩
      · exact .inl hhit
      · obtain ⟨h₁, hrun'⟩ := hu.of_ready
        exact .inr ⟨_, .builtinReturned (hf.withLimits hl)
          (dispatch_ok_withLimits hm.2.1.1.1 hl hd) hrun' hnext'⟩
  | @unbound caller function argc s hnone =>
    intro hpos
    exact .inr ⟨_, .unbound hnone⟩
  | @unavailable caller function argc s b hsome hd =>
    intro hpos
    exact .inr ⟨_, .unavailable hsome hd⟩
  | @hosted caller function argc s s' s'' b h r r' hsome hd hrun hraise ih =>
    intro hpos
    have hcode := (hb b (Array.mem_of_getElem? hsome) ⟨linked.setup, function, argc⟩).1
    rcases ih (List.forall_mem_cons.mp hm).2 hpos hcode with ⟨err, hp, hhit⟩ | hrun'
    · simp only [settle, raisePending, hp] at hraise
      cases hraise
      exact .inl ⟨err, rfl, hhit⟩
    · exact .inr (hosted_withLimits hb hsome hd hrun' hraise)
  | done => exact fun _ _ => .inr ⟨_, .done⟩
  | @answered label op next s s' s'' a h r ht ha hrun ih =>
    intro hpos hcode
    obtain ⟨hcalm, hm⟩ := List.forall_mem_cons.mp hm
    have hn := (answer_neutral hcalm.1 ht ha).1
    rcases ih hm (hn.stack.activeCalls ▸ hpos) (hcode.2 a) with hhit | ⟨h', hrun'⟩
    · exact .inl hhit
    · rw [← hcode.1 limits a] at hrun'
      refine .inr ⟨_, .answered ht ?_ hrun'⟩
      rw [Linked.withLimits, answer_withLimits limits ht, ha]
  | @called label function next s s' s'' h h' r r' hp hcall hrun ihc ih =>
    intro hpos hcode
    simp only [List.forall_mem_cons, List.forall_mem_append] at hm
    obtain ⟨hcalm, hm₁, -, hm₂⟩ := hm
    have hs : s.state.AtHost linked.setup := hcalm.1
    have hn : Neutral linked.setup s h s' := hcall.outcome hc hs
    have hpos' := hn.stack.activeCalls ▸ hpos
    rcases ihc hm₁ hs with ⟨err, hfault, hhit⟩ | ⟨h₁, hcall'⟩
    · -- The error of the nested call is pending and stays so until the builtin returns.
      have hpend := (hcall.call_pending hc hs hpos hp).trans hfault
      have hlast : s''.state.context.pending = _ :=
        hrun.faults hc (fun moment hmem => (hm₂ moment hmem).1) hpos'
      rw [hpend] at hlast
      exact .inl ⟨err, hlast, hhit⟩
    · rcases ih hm₂ hpos' (hcode.2 r) with hhit | ⟨h₂, hrun'⟩
      · exact .inl hhit
      · exact .inr ⟨_, .called hp hcall' hrun'⟩
  | @executed label function caller next s s' s'' h h' r r' hcall hrun ihc ih =>
    exact absurd rfl ((hm _ List.mem_cons_self).2 function caller s.state)

end Runs

end Call

lemma Setup.Checked.withLimits {setup : Setup} (hc : setup.Checked) (limits : Limits) :
    (setup.withLimits limits).Checked :=
  ⟨hc.parts, hc.globals, hc.fields⟩

lemma Machine.AtHost.withLimits {setup : Setup} {m : Machine} (hs : m.AtHost setup)
    (limits : Limits) : (m.withLimits limits).AtHost (setup.withLimits limits) := by
  have hc := hs.context
  exact ⟨⟨⟨hs.memory.globals, hs.memory.whole, hs.memory.record⟩, ⟨hc.laid, hc.windows, hc.callers,
    hc.resumes, hc.statement, rfl, rfl, hc.idle⟩⟩, hs.current⟩

/-- A call that does not hit a limit has the same result and leaves the same machine when the limits
are larger, as long as builtins do not look at the limits and call functions only in the way that
respects pending errors. -/
theorem Instance.execute_withLimits {i : Instance} (hi : i.Created) (hb : i.linked.IgnoresLimits)
    {m : Machine} (hm : i.Reaches m) {limits : Limits}
    (hl : i.linked.setup.settings.limits ≤ limits) (function : Nat) (caller : String)
    (journal : Journal)
    (he : ∀ f c m', .asked (.execute f c) m' ∉ Call.history i.linked function caller ⟨m, journal⟩)
    (hr : ¬ Call.HitsLimit
      (Call.settle (Call.execute i.linked function caller) ⟨m, journal⟩).1) :
    let out := Call.settle (Call.execute i.linked function caller) ⟨m, journal⟩
    Call.settle (Call.execute (i.linked.withLimits limits) function caller)
      ⟨m.withLimits limits, journal⟩ = (out.1, out.2.withLimits limits) := by
  intro out
  have hc := hi.checked
  have hs := hi.reaches_atHost hm
  have hrun := Call.execute_runs (s := ⟨m, journal⟩) hc hs function caller
  have hn : Call.Neutral i.linked.setup _ _ _ := hrun.outcome hc hs
  have hcalm (moment : Moment)
      (hmem : moment ∈ Call.history i.linked function caller ⟨m, journal⟩) :
      Call.Calm i.linked.setup moment := by
    refine ⟨hn.moments moment hmem, ?_⟩
    rintro f c m' rfl
    exact he f c m' hmem
  rcases hrun.withLimits hc hl hb hcalm hs with hhit | ⟨h', hrun'⟩
  · exact absurd hhit hr
  · exact (hrun'.eq_execute (hc.withLimits limits) (hs.withLimits limits)).2

namespace Relay

lemma ignoresLimits : relay.linked.IgnoresLimits := by
  intro b hb
  have hcases : b = ask ∨ b = stop := by simpa [relay] using hb
  rcases hcases with rfl | rfl
  · exact fun site => ⟨⟨fun _ _ => rfl, fun _ => trivial⟩, fun _ => rfl⟩
  · exact fun site => ⟨trivial, fun _ => rfl⟩

theorem abort_withLimits :
    relay.Created ∧ relay.linked.IgnoresLimits ∧ relay.Reaches relay.machine ∧
    let out := Call.settle (Call.execute relay.linked 1 "host") ⟨relay.machine, #[]⟩
    out.1 = .error (.runtime (.abort "stop")) ∧
    Call.settle (Call.execute (relay.linked.withLimits ⟨10000, 102400, 1638400⟩) 1 "host")
      ⟨relay.machine.withLimits ⟨10000, 102400, 1638400⟩, #[]⟩ =
        (out.1, out.2.withLimits ⟨10000, 102400, 1638400⟩) := by
  have hl : relay.linked.setup.settings.limits ≤ ⟨10000, 102400, 1638400⟩ :=
    ⟨by decide, by decide, by decide⟩
  have hcalls : (Call.history relay.linked 1 "host" ⟨relay.machine, #[]⟩).all
      (fun moment => !(moment matches .asked (.execute ..) _)) = true := by decide +kernel
  have hout : (Call.settle (Call.execute relay.linked 1 "host") ⟨relay.machine, #[]⟩).1 =
      .error (.runtime (.abort "stop")) := by decide +kernel
  refine ⟨created, ignoresLimits, relay.reaches_machine, hout, ?_⟩
  refine Instance.execute_withLimits created ignoresLimits relay.reaches_machine hl 1 "host" #[]
    (fun f c m' hmem => ?_) ?_
  · cases List.all_eq_true.mp hcalls _ hmem
  · rw [hout]
    rintro ⟨err, herr, hhit⟩
    cases herr
    exact hhit

end Relay

end GameVm
