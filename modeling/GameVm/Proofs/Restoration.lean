import GameVm.Proofs.Reachable

/-! What a call leaves behind: the stack as it was, and the windows of its frames restored. -/

namespace GameVm

namespace Call

/-- How a call stands before it is concluded: its result, and the machine its loop has left. -/
def tried (linked : Linked) (function : Nat) (caller : String) (s : Recorded Machine) :
    Except VmError Unit × Recorded Machine :=
  settle (attempt linked.setup (loop linked linked.setup.settings.maxInstructions) function caller)
    s

lemma settle_execute (linked : Linked) (function : Nat) (caller : String) (s : Recorded Machine) :
    settle (execute linked function caller) s = ((tried linked function caller s).1,
      conclude linked.setup function caller s.state.context.mark (tried linked function caller s).1
        (tried linked function caller s).2) :=
  settle_framed ..

variable {linked : Linked} {s : Recorded Machine}

lemma tried_cases (hc : linked.setup.Checked) (hs : s.state.AtHost linked.setup) (function : Nat)
    (caller : String) :
    (history linked function caller s = [] ∧
      (∃ err, (tried linked function caller s).1 = .error err) ∧
      (tried linked function caller s).2 = mapContext Context.beginCall s) ∨
    ∃ entry start h, linked.setup.image.function? function = some entry ∧
      history linked function caller s =
        .pushed function (mapContext Context.beginCall s).state :: h ∧
      LoopEnds linked.setup s.state.context.beginCall
        ⟨s.state.context.beginCall.newFrame function entry, (mapContext Context.beginCall s).state⟩
        [] start h (tried linked function caller s).1 (tried linked function caller s).2 := by
  rcases Exec.enter_cases hc (inCall_beginCall hs).sound.memory function with
    ⟨fault, he, -⟩ | ⟨entry, globals, hz, hf, hb, hg, -, he⟩
  · refine .inl ⟨?_, ?_, ?_⟩
    · simp only [history, framedHistory, ofExec, he]
    · rw [tried, settle, attempt_of_error _ _ he]
      exact ⟨_, rfl⟩
    · rw [tried, settle, attempt_of_error _ _ he]
      rfl
  · have hin := entered_inCall hc hs hz hf hb hg
    have ht : tried linked function caller s =
        settle (loop linked linked.setup.settings.maxInstructions caller s.state.context.depth)
          ⟨(mapContext Context.beginCall s).state.enter function entry globals, s.journal⟩ := by
      simp only [tried, settle, attempt_of_ok _ _ he]
    have hrun := loopsRun hc linked.setup.settings.maxInstructions caller _ _ _ _
      ⟨(mapContext Context.beginCall s).state.enter function entry globals, s.journal⟩
      (Context.beginCall_depth _) hin (Nat.le_add_right _ _)
    rw [ht]
    refine .inr ⟨entry, _, _, hf, ?_, hrun.outcome hc _ _ _ (Context.beginCall_depth _) hin⟩
    simp only [history, framedHistory, ofExec, he]
    rfl

lemma tried_returned (hc : linked.setup.Checked) (hs : s.state.AtHost linked.setup) {function : Nat}
    {caller : String} (hr : (tried linked function caller s).1 = .ok ()) :
    (tried linked function caller s).2.state.context.SameStack s.state.context.beginCall ∧
    ∃ entry, linked.setup.image.function? function = some entry ∧
      ∀ x, (s.state.context.newFrame function entry).Covers x →
        (tried linked function caller s).2.state.memory.globals.cells[x]? =
          s.state.memory.globals.cells[x]? := by
  rcases tried_cases hc hs function caller with ⟨-, ⟨err, he⟩, -⟩ | ⟨entry, start, h, hf, -, hl⟩
  · rw [hr] at he
    cases he
  · obtain ⟨hstack, hw⟩ := hl.returned hr
    exact ⟨hstack, entry, hf, hw⟩

/-- A call that has failed: `ps` are the frames that it has left on the stack and that are popped
when it is concluded. -/
structure Unwound (linked : Linked) (function : Nat) (caller : String) (s : Recorded Machine)
    (ps : List Push) : Prop where
  grown : Context.Grown linked.setup.image.parts.globals.size s.state.context.beginCall ps
    (tried linked function caller s).2.state.context
  size : (tried linked function caller s).2.state.memory.globals.cells.size =
    linked.setup.image.parts.globals.size
  pushed : ∀ k p, ps[k]? = some p →
    (history linked function caller s).lastPush (s.state.context.depth + k) = some p.entry
  window : ∀ entry, linked.setup.image.function? function = some entry →
    ∀ x, (s.state.context.newFrame function entry).Covers x →
      (Push.restore ps (tried linked function caller s).2.state.memory.globals).cells[x]? =
        s.state.memory.globals.cells[x]?
  memory : (settle (execute linked function caller) s).2.state.memory =
    ⟨Push.restore ps (tried linked function caller s).2.state.memory.globals,
      (tried linked function caller s).2.state.memory.entities,
      (tried linked function caller s).2.state.memory.strings⟩

lemma exists_unwound (hc : linked.setup.Checked) (hs : s.state.AtHost linked.setup)
    {function : Nat} {caller : String} {err : VmError}
    (hr : (tried linked function caller s).1 = .error err) :
    ∃ ps, Unwound linked function caller s ps := by
  have hmem {ps : List Push} (hg : Context.Grown linked.setup.image.parts.globals.size
      s.state.context.beginCall ps (tried linked function caller s).2.state.context)
      (hz : (tried linked function caller s).2.state.memory.globals.cells.size =
        linked.setup.image.parts.globals.size) :
      (settle (execute linked function caller) s).2.state.memory =
        ⟨Push.restore ps (tried linked function caller s).2.state.memory.globals,
          (tried linked function caller s).2.state.memory.entities,
          (tried linked function caller s).2.state.memory.strings⟩ := by
    rw [settle_execute, hr]
    exact (conclude_error linked.setup function caller hg hz err).2
  rcases tried_cases hc hs function caller with ⟨-, -, hm⟩ | ⟨entry, start, h, hf, hh, hl⟩
  · have hg : Context.Grown linked.setup.image.parts.globals.size s.state.context.beginCall []
        (tried linked function caller s).2.state.context := hm ▸ .refl _ _
    have hz : (tried linked function caller s).2.state.memory.globals.cells.size =
        linked.setup.image.parts.globals.size := hm ▸ hs.memory.globals
    refine ⟨[], hg, hz, by simp, fun _ _ _ _ => ?_, hmem hg hz⟩
    rw [hm]
    rfl
  · obtain ⟨rest, hg, ht⟩ := hl.failed err hr
    have hz := hl.sound.memory.globals
    refine ⟨_, hg, hz, ?_, ?_, hmem hg hz⟩
    · intro k p hp
      have hk := ht k p hp
      rw [Context.beginCall_depth] at hk
      rw [hh]
      simp only [History.lastPush, mapContext_context, Context.beginCall_depth]
      cases k with
      | zero => simpa [Push.entry, Context.newFrame] using hk
      | succ k => simpa using hk
    · intro entry' hf' x hx
      obtain rfl : entry = entry' := by simpa [hf] using hf'
      have hx' : (s.state.context.beginCall.newFrame function entry).Covers x := hx
      exact Push.getElem?_restore_of_first hg.fits hz (k := 0) rfl hx' (by simp)

lemma execute_concluded (hc : linked.setup.Checked) (hs : s.state.AtHost linked.setup)
    (function : Nat) (caller : String) :
    Concluded s.state.context (tried linked function caller s).2.state.context
      (settle (execute linked function caller) s).2.state.context
      (settle (execute linked function caller) s).1 := by
  rw [settle_execute]
  rcases tried_cases hc hs function caller with ⟨-, ⟨err, he⟩, hm⟩ | ⟨entry, start, h, -, -, hl⟩
  · rw [he, hm]
    exact (refused_concluded hs function caller err).1
  · exact (hl.concluded function caller).1

lemma execute_window (hc : linked.setup.Checked) (hs : s.state.AtHost linked.setup) {function : Nat}
    {entry : FunctionEntry} (hf : linked.setup.image.function? function = some entry)
    (caller : String) {x : Nat} (hx : (s.state.context.newFrame function entry).Covers x) :
    (settle (execute linked function caller) s).2.state.memory.globals.cells[x]? =
      s.state.memory.globals.cells[x]? := by
  cases hr : (tried linked function caller s).1 with
  | ok _ =>
    obtain ⟨-, entry', hf', hw⟩ := tried_returned hc hs hr
    obtain rfl : entry = entry' := by simpa [hf] using hf'
    rw [settle_execute, hr]
    exact hw x hx
  | error err =>
    obtain ⟨ps, hu⟩ := exists_unwound hc hs hr
    rw [hu.memory]
    exact hu.window entry hf x hx

namespace Unwound

variable {function : Nat} {caller : String} {ps : List Push}

lemma getElem?_frames (h : Unwound linked function caller s ps) (k : Nat) :
    (tried linked function caller s).2.state.context.frames[s.state.context.depth + k]? =
      ps[k]?.map (·.frame) := by
  rw [← Context.beginCall_depth, h.grown.getElem?_frames]

lemma outside (h : Unwound linked function caller s ps) {x : Nat}
    (hx : ∀ k frame, s.state.context.depth ≤ k →
      (tried linked function caller s).2.state.context.frames[k]? = some frame → ¬ frame.Covers x) :
    (settle (execute linked function caller) s).2.state.memory.globals.cells[x]? =
      (tried linked function caller s).2.state.memory.globals.cells[x]? := by
  rw [h.memory]
  refine Push.getElem?_restore_of_forall_not h.grown.fits h.size fun p hp => ?_
  obtain ⟨k, hk⟩ := List.mem_iff_getElem?.mp hp
  refine hx (s.state.context.depth + k) p.frame (Nat.le_add_right _ _) ?_
  rw [h.getElem?_frames, hk]
  rfl

lemma inside (h : Unwound linked function caller s ps) {x k : Nat} {frame : Frame}
    (hk : s.state.context.depth ≤ k)
    (hf : (tried linked function caller s).2.state.context.frames[k]? = some frame)
    (hx : frame.Covers x)
    (hj : ∀ j outer, s.state.context.depth ≤ j → j < k →
      (tried linked function caller s).2.state.context.frames[j]? = some outer → ¬ outer.Covers x) :
    ∃ before, (history linked function caller s).lastPush k = some (frame.function, before) ∧
      (settle (execute linked function caller) s).2.state.memory.globals.cells[x]? =
        before.memory.globals.cells[x]? := by
  obtain ⟨n, rfl⟩ := Nat.exists_eq_add_of_le hk
  rw [h.getElem?_frames, Option.map_eq_some_iff] at hf
  obtain ⟨p, hn, rfl⟩ := hf
  refine ⟨p.machine, h.pushed n p hn, ?_⟩
  rw [h.memory]
  refine Push.getElem?_restore_of_first h.grown.fits h.size hn hx fun j hjn q hq => ?_
  refine hj (s.state.context.depth + j) q.frame (Nat.le_add_right _ _) (by omega) ?_
  rw [h.getElem?_frames, hq]
  rfl

end Unwound

end Call

/-- A call leaves the stack as it was, however it ends. An outermost one leaves a fresh context, but
for the count of statements and for how it ended. -/
theorem Instance.execute_restores_stack {i : Instance} (hi : i.Created) {m : Machine}
    (hm : i.Reaches m) (function : Nat) (caller : String) (journal : Journal) :
    let out := Call.settle (Call.execute i.linked function caller) ⟨m, journal⟩
    out.2.state.context.SameStack m.context ∧
    (m.context.activeCalls = 0 → out.2.state.context =
      { Context.fresh i.linked.setup.settings.maxCallDepth
          i.linked.setup.settings.localStackSize with
        instructions := out.2.state.context.instructions
        state := CallState.after out.1 }) := by
  intro out
  have hs : (⟨m, journal⟩ : Recorded Machine).state.AtHost i.linked.setup := hi.reaches_atHost hm
  have hcon := Call.execute_concluded hi.checked hs function caller
  have hat : out.2.state.AtHost i.linked.setup :=
    ((Call.execute_runs hi.checked hs function caller).outcome hi.checked hs).atHost
  refine ⟨hcon.stack, fun hz => ?_⟩
  rw [← (hcon.outermost hz).2]
  exact hat.context.eq_fresh (hcon.stack.activeCalls.trans hz)

theorem Relay.main_restores_stack :
    relay.Created ∧ relay.Reaches relay.machine ∧
    let out := Call.settle (Call.execute relay.linked 1 "host") ⟨relay.machine, #[]⟩
    out.1 = .error (.runtime (.abort "stop")) ∧
      out.2.state.context.SameStack relay.machine.context ∧
      out.2.state.context.state = .interrupted .abort := by
  have hreach := relay.reaches_machine
  obtain ⟨hstack, hfresh⟩ := Instance.execute_restores_stack created hreach 1 "host" #[]
  have hr : (Call.settle (Call.execute relay.linked 1 "host") ⟨relay.machine, #[]⟩).1 =
      .error (.runtime (.abort "stop")) := by decide +kernel
  have hstate := congrArg Context.state (hfresh rfl)
  rw [hr] at hstate
  exact ⟨created, hreach, hr, hstack, hstate⟩

/-- The window of a called function is restored, however the call ends. When it fails, unwinding
changes nothing but the windows of the frames it pops, and a cell in several of them gets back what
it held when the outermost of these frames was pushed. -/
theorem Instance.execute_restores_windows {i : Instance} (hi : i.Created) {m : Machine}
    (hm : i.Reaches m) (function : Nat) (caller : String) (journal : Journal) :
    let s : Recorded Machine := ⟨m, journal⟩
    let stopped := Call.tried i.linked function caller s
    let out := Call.settle (Call.execute i.linked function caller) s
    out = (stopped.1,
      Call.conclude i.linked.setup function caller m.context.mark stopped.1 stopped.2) ∧
    (∀ entry, i.linked.setup.image.function? function = some entry →
      ∀ x, entry.parmStart.toNat ≤ x → x < entry.parmStart.toNat + entry.locals.toNat →
        out.2.state.memory.globals.cells[x]? = m.memory.globals.cells[x]?) ∧
    ∀ err, out.1 = .error err →
      out.2.state.memory.entities = stopped.2.state.memory.entities ∧
      out.2.state.memory.strings = stopped.2.state.memory.strings ∧
      ∀ x,
        ((∀ k frame, m.context.depth ≤ k → stopped.2.state.context.frames[k]? = some frame →
            ¬ frame.Covers x) →
          out.2.state.memory.globals.cells[x]? = stopped.2.state.memory.globals.cells[x]?) ∧
        ∀ k frame, m.context.depth ≤ k → stopped.2.state.context.frames[k]? = some frame →
          frame.Covers x →
          (∀ j outer, m.context.depth ≤ j → j < k →
            stopped.2.state.context.frames[j]? = some outer → ¬ outer.Covers x) →
          ∃ before, (Call.history i.linked function caller s).lastPush k =
              some (frame.function, before) ∧
            out.2.state.memory.globals.cells[x]? = before.memory.globals.cells[x]? := by
  intro s stopped out
  have hs : s.state.AtHost i.linked.setup := hi.reaches_atHost hm
  have hout : out = (stopped.1, Call.conclude i.linked.setup function caller m.context.mark
    stopped.1 stopped.2) := Call.settle_execute ..
  refine ⟨hout, ?_, ?_⟩
  · intro entry hf x hlo hhi
    exact Call.execute_window hi.checked hs hf caller ⟨hlo, hhi⟩
  · intro err he
    have hr : (Call.tried i.linked function caller s).1 = .error err := by
      rw [hout] at he
      exact he
    obtain ⟨ps, hu⟩ := Call.exists_unwound hi.checked hs hr
    have hmem : out.2.state.memory = ⟨Push.restore ps stopped.2.state.memory.globals,
      stopped.2.state.memory.entities, stopped.2.state.memory.strings⟩ := hu.memory
    refine ⟨by rw [hmem], by rw [hmem], fun x => ⟨hu.outside, fun k frame hk hf hx hj => ?_⟩⟩
    exact hu.inside hk hf hx hj

theorem Relay.callee_restores_window :
    relay.Created ∧ ∃ m, relay.Reaches m ∧ 0 < m.context.activeCalls ∧
      ∀ x, 28 ≤ x → x < 30 →
        (Call.settle (Call.execute relay.linked 2 "ask")
          ⟨m, #[]⟩).2.state.memory.globals.cells[x]? = m.memory.globals.cells[x]? := by
  obtain ⟨m, hreach, hpos⟩ := reaches_inside
  obtain ⟨-, hwindow, -⟩ := Instance.execute_restores_windows created hreach 2 "ask" #[]
  exact ⟨created, m, hreach, hpos, hwindow _ rfl⟩

end GameVm
