import GameVm.Proofs.Soundness

/-! A call from inside: what a statement does to its frames, and how the call is concluded. -/

namespace GameVm

namespace Push

def entry (p : Push) : Nat × Machine := (p.frame.function, p.machine)

end Push

namespace History

/-- The function entered last at a height of the stack, with the machine before. -/
def lastPush (height : Nat) : History → Option (Nat × Machine)
  | [] => none
  | .pushed function m :: h =>
    (lastPush height h).or (if m.context.depth = height then some (function, m) else none)
  | _ :: h => lastPush height h

lemma lastPush_append (height : Nat) (h h' : History) :
    lastPush height (h ++ h') = (lastPush height h').or (lastPush height h) := by
  induction h with
  | nil => simp [lastPush]
  | cons moment h ih =>
    cases moment <;> simp only [List.cons_append, lastPush, ih, Option.or_assoc]

/-- The frames of `pushes'` are those of `pushes` as far as the history has pushed no others. -/
def Tracks (base : Nat) (pushes : List Push) (h : History) (pushes' : List Push) : Prop :=
  ∀ k p, pushes'[k]? = some p →
    (lastPush (base + k) h).or (pushes[k]?.map Push.entry) = some p.entry

variable {base : Nat} {ps ps' ps'' : List Push} {h h' : History}

lemma Tracks.refl (base : Nat) (ps : List Push) : Tracks base ps [] ps := by
  intro k p hp
  simp [lastPush, hp]

lemma Tracks.trans (ht : Tracks base ps h ps') (ht' : Tracks base ps' h' ps'') :
    Tracks base ps (h ++ h') ps'' := by
  intro k p hp
  have hk := ht' k p hp
  rw [lastPush_append]
  cases hl : lastPush (base + k) h' with
  | some entry => simpa [hl] using hk
  | none =>
    obtain ⟨q, hq, he⟩ : ∃ q, ps'[k]? = some q ∧ q.entry = p.entry := by simpa [hl] using hk
    simpa [he] using ht k q hq

lemma Tracks.quiet (hq : ∀ k < base + ps.length, lastPush k h = none) : Tracks base ps h ps := by
  intro k p hp
  have hk : k < ps.length := List.getElem?_eq_some_iff.mp hp |>.1
  simp [hq (base + k) (by omega), hp]

lemma Tracks.concat {p : Push} (hd : p.machine.context.depth = base + ps.length) :
    Tracks base ps [.pushed p.frame.function p.machine] (ps ++ [p]) := by
  intro k q hq
  by_cases hk : k < ps.length
  · rw [List.getElem?_append_left hk] at hq
    simp [lastPush, hd, hq, show ps.length ≠ k by omega]
  · obtain rfl : k = ps.length := by
      have := (List.getElem?_eq_some_iff.mp hq).1
      rw [List.length_append, List.length_singleton] at this
      omega
    obtain rfl : p = q := by simpa using hq
    simp [lastPush, hd, Push.entry]

lemma Tracks.dropLast {p : Push} (base : Nat) (ps : List Push) :
    Tracks base (ps ++ [p]) [] ps := by
  intro k q hq
  have hk : k < ps.length := List.getElem?_eq_some_iff.mp hq |>.1
  simp [lastPush, List.getElem?_append_left hk, hq]

end History

/-- A machine inside a call that has pushed frames since it stood at `base`. -/
structure Machine.InCall (setup : Setup) (base : Context) (pushes : List Push) (m : Machine) :
    Prop where
  sound : m.Sound setup
  grown : Context.Grown setup.image.parts.globals.size base pushes m.context
  running : 0 < m.context.activeCalls

namespace Context

variable (c : Context)

@[simp]
lemma beginCall_frames : c.beginCall.frames = c.frames := by
  rw [beginCall]
  split_ifs <;> rfl

@[simp]
lemma beginCall_depth : c.beginCall.depth = c.depth := congrArg Array.size (beginCall_frames c)

@[simp]
lemma beginCall_saved : c.beginCall.saved = c.saved := by
  rw [beginCall]
  split_ifs <;> rfl

@[simp]
lemma beginCall_statement : c.beginCall.statement = c.statement := by
  rw [beginCall]
  split_ifs <;> rfl

@[simp]
lemma beginCall_activeCalls : c.beginCall.activeCalls = c.activeCalls + 1 := by
  rw [beginCall]
  split_ifs with h
  · rw [h]
  · rfl

@[simp]
lemma beginCall_maxDepth : c.beginCall.maxDepth = c.maxDepth := by
  rw [beginCall]
  split_ifs <;> rfl

@[simp]
lemma beginCall_localLimit : c.beginCall.localLimit = c.localLimit := by
  rw [beginCall]
  split_ifs <;> rfl

lemma beginCall_eq (h : 0 < c.activeCalls) :
    c.beginCall = { c with activeCalls := c.activeCalls + 1 } := by
  rw [beginCall, if_neg h.ne']

end Context

/-- What belongs to the calls and not to the stack is the same. -/
structure Context.SameCall (c c' : Context) : Prop where
  instructions : c.instructions = c'.instructions
  activeCalls : c.activeCalls = c'.activeCalls
  pending : c.pending = c'.pending

lemma Exec.Effect.sameCall {setup : Setup} {m m' : Machine} {flow : Flow}
    (h : Effect setup m flow m') : m'.context.SameCall m.context := by
  cases h <;> exact ⟨rfl, rfl, rfl⟩

namespace Machine.InCall

variable {setup : Setup} {base : Context} {ps : List Push} {m m' : Machine}

lemma of_sameStack (h : m.InCall setup base ps) (hm : m'.Sound setup)
    (hs : m'.context.SameStack m.context) : m'.InCall setup base ps :=
  ⟨hm, h.grown.of_sameStack hs, hs.activeCalls ▸ h.running⟩

lemma frames_ne {first : Push} {rest : List Push} (h : m.InCall setup base (first :: rest)) :
    m.context.frames ≠ #[] := by
  intro he
  have hd := h.grown.depth
  rw [Context.depth, he, List.length_cons] at hd
  simp at hd

lemma lt_depth {first : Push} {rest : List Push} (h : m.InCall setup base (first :: rest)) :
    base.depth < m.context.depth := by
  rw [h.grown.depth, List.length_cons]
  omega

lemma setStatement (h : m.InCall setup base ps) {statement : Nat}
    (hs : statement ≤ setup.image.parts.statements.size) :
    (m.mapContext (·.setStatement statement)).InCall setup base ps :=
  ⟨⟨h.sound.memory, h.sound.context.setStatement h.running hs⟩, h.grown.setStatement _, h.running⟩

lemma moved (h : m.InCall setup base ps) {statement : Nat} {memory : Memory}
    (hs : statement ≤ setup.image.parts.statements.size) (hm : memory.SameShape m.memory) :
    InCall setup base ps ⟨memory, m.context.setStatement statement, m.profile⟩ :=
  ⟨⟨h.sound.memory.of_sameShape hm, h.sound.context.setStatement h.running hs⟩,
    h.grown.setStatement _, h.running⟩

lemma entered (h : m.InCall setup base ps) (hc : setup.Checked)
    (hs : m.context.frames ≠ #[] → m.context.statement < setup.image.parts.statements.size)
    (ho : ps = [] → m.context.statement = base.statement) {function : Nat} {entry : FunctionEntry}
    {globals : Globals} (hz : function ≠ 0) (hf : setup.image.function? function = some entry)
    (hb : entry.isBuiltin = false) (hg : globals.cells.size = m.memory.globals.cells.size) :
    (m.enter function entry globals).InCall setup base
      (ps ++ [⟨m.context.newFrame function entry, m⟩]) := by
  have hfits := (hc.parts.functions function entry hf).2.2 hb
  have hw : entry.parmStart.toNat + entry.locals.toNat ≤ setup.image.parts.globals.size :=
    hfits.window
  have hp := h.sound.context.pushed h.running hs function h.sound.memory.globals hw
  refine ⟨⟨h.sound.memory.of_sameShape (.of_globals hg), ?_⟩, ?_, h.running⟩
  · exact hp.setStatement h.running (hfits.first hz).le
  · exact (h.grown.pushed h.sound.memory.globals hw ho).setStatement _

lemma returned {p : Push} (h : m.InCall setup base (ps ++ [p])) {globals : Globals}
    (hg : globals.cells.size = m.memory.globals.cells.size) :
    (m.leave p.frame globals).InCall setup base ps ∧
      ((m.leave p.frame globals).context.frames ≠ #[] →
        (m.leave p.frame globals).context.statement < setup.image.parts.statements.size) ∧
      (m.leave p.frame globals).memory.globals = Push.restore [p] globals := by
  obtain ⟨hp, hr⟩ := h.sound.context.popped h.running h.grown.back?
  refine ⟨⟨⟨h.sound.memory.of_sameShape ?_, hp⟩, h.grown.popped, h.running⟩, hr, ?_⟩
  · exact .of_globals (by rw [Cells.size_write, hg])
  · rw [Machine.leave, h.grown.window_eq]
    rfl

end Machine.InCall

def CallState.after : Except VmError Unit → CallState
  | .ok _ => .returned
  | .error (.runtime (.runaway ..)) => .interrupted .runaway
  | .error (.runtime (.abort _)) => .interrupted .abort
  | .error _ => .interrupted .error

lemma CallState.after_error (err : VmError) :
    after (.error err) = .interrupted (Context.interrupt err) := by
  cases err with
  | runtime err => cases err <;> rfl
  | _ => rfl

namespace Call

def fault? : Except VmError Unit → Option RuntimeError
  | .ok _ => none
  | .error err => err.runtime?

/-- How the context `after` a call stands to the one `before` it and the one `inside` it, when the
call ended with `r`. -/
structure Concluded (before inside after : Context) (r : Except VmError Unit) : Prop where
  stack : after.SameStack before
  instructions : after.instructions = inside.instructions
  maxDepth : after.maxDepth = inside.maxDepth
  localLimit : after.localLimit = inside.localLimit
  outermost : before.activeCalls = 0 → after.pending = none ∧ after.state = CallState.after r
  nested : before.activeCalls ≠ 0 →
    after.state = inside.state ∧ after.pending = inside.pending.or (fault? r)

variable (setup : Setup) (function : Nat) (caller : String) {s s' : Recorded Machine}

lemma conclude_ok (hs : s'.state.context.SameStack s.state.context.beginCall) :
    Concluded s.state.context s'.state.context
      (conclude setup function caller s.state.context.mark (.ok ()) s').state.context (.ok ()) := by
  obtain ⟨hf, hv, ht, ha⟩ := hs
  simp only [Context.beginCall_frames, Context.beginCall_saved, Context.beginCall_statement,
    Context.beginCall_activeCalls] at hf hv ht ha
  by_cases ho : s.state.context.activeCalls = 0
  · have hm : s.state.context.mark.outermost = true := decide_eq_true ho
    rw [conclude, hm]
    exact ⟨⟨hf, hv, ht, Nat.sub_eq_of_eq_add ha⟩, rfl, rfl, rfl, fun _ => ⟨rfl, rfl⟩,
      fun h => absurd ho h⟩
  · have hm : s.state.context.mark.outermost = false := decide_eq_false ho
    rw [conclude, hm]
    exact ⟨⟨hf, hv, ht, Nat.sub_eq_of_eq_add ha⟩, rfl, rfl, rfl, fun h => absurd h ho,
      fun _ => ⟨rfl, Option.or_none.symm⟩⟩

lemma conclude_error {n : Nat} {ps : List Push}
    (hg : Context.Grown n s.state.context.beginCall ps s'.state.context)
    (hm : s'.state.memory.globals.cells.size = n) (err : VmError) :
    Concluded s.state.context s'.state.context
      (conclude setup function caller s.state.context.mark (.error err) s').state.context
      (.error err) ∧
    (conclude setup function caller s.state.context.mark (.error err) s').state.memory =
      ⟨Push.restore ps s'.state.memory.globals, s'.state.memory.entities,
        s'.state.memory.strings⟩ := by
  have hu := hg.unwind_eq hm s.state.context.mark
    (by simp [Context.mark, Context.depth]) (by simp [Context.mark])
  have ha := hg.activeCalls
  simp only [Context.beginCall_frames, Context.beginCall_saved, Context.beginCall_activeCalls]
    at ha hu
  simp only [conclude, framed.fail, hu]
  by_cases ho : s.state.context.activeCalls = 0
  · have hm : s.state.context.mark.outermost = true := decide_eq_true ho
    rw [hm, if_pos rfl]
    exact ⟨⟨⟨rfl, rfl, rfl, Nat.sub_eq_of_eq_add ha⟩, rfl, rfl, rfl,
      fun _ => ⟨rfl, (CallState.after_error err).symm⟩, fun h => absurd ho h⟩, rfl⟩
  · have hm : s.state.context.mark.outermost = false := decide_eq_false ho
    have hr (c : Context) : (c.recordFault err).endCall false (some err) = { c with
        activeCalls := c.activeCalls - 1, pending := c.pending.or err.runtime? } := by
      rw [Context.recordFault, Context.endCall]
      cases hp : c.pending <;> simp [hp]
    rw [hm, if_neg (by simp), hr]
    exact ⟨⟨⟨rfl, rfl, rfl, Nat.sub_eq_of_eq_add ha⟩, rfl, rfl, rfl, fun h => absurd h ho,
      fun _ => ⟨rfl, rfl⟩⟩, rfl⟩

end Call

end GameVm
