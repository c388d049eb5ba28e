import GameVm.Proofs.Calls

/-! Every activity leaves the stack as it found it, and the machine is sound at every moment. -/

namespace GameVm.Call

section States

variable (setup : Setup) (st : Statement) (s : Recorded Machine)

@[simp]
lemma mapContext_context (f : Context → Context) :
    (mapContext f s).state.context = f s.state.context := rfl

@[simp]
lemma ready_context : (ready setup st s).state.context = s.state.context.tick := by
  rw [ready, observe]
  split_ifs <;> rfl

@[simp]
lemma ready_memory : (ready setup st s).state.memory = s.state.memory := by
  rw [ready, observe]
  split_ifs <;> rfl

lemma ready_activeCalls :
    (ready setup st s).state.context.activeCalls = s.state.context.activeCalls := by
  rw [ready_context]
  rfl

lemma ready_pending : (ready setup st s).state.context.pending = s.state.context.pending := by
  rw [ready_context]
  rfl

end States

/-- An activity of the host, or one that the host has asked for, from `s` to `s'`. -/
structure Neutral (setup : Setup) (s : Recorded Machine) (h : History) (s' : Recorded Machine) :
    Prop where
  atHost : s'.state.AtHost setup
  stack : s'.state.context.SameStack s.state.context
  moments : ∀ moment ∈ h, moment.Sound setup
  counted : 0 < s.state.context.activeCalls →
    s.state.context.instructions ≤ s'.state.context.instructions
  above : ∀ k < s.state.context.depth, h.lastPush k = none

namespace Neutral

variable {setup : Setup} {s s' s'' : Recorded Machine} {h h' : History}

lemma trans (hn : Neutral setup s h s') (hn' : Neutral setup s' h' s'') :
    Neutral setup s (h ++ h') s'' where
  atHost := hn'.atHost
  stack := hn'.stack.trans hn.stack
  moments := by
    intro moment hm
    rcases List.mem_append.mp hm with hm | hm
    · exact hn.moments moment hm
    · exact hn'.moments moment hm
  counted := fun ha => (hn.counted ha).trans (hn'.counted (hn.stack.activeCalls ▸ ha))
  above := by
    intro k hk
    have hk' : k < s'.state.context.depth := by
      rw [Context.depth, hn.stack.frames]
      exact hk
    rw [History.lastPush_append, hn.above k hk, hn'.above k hk']
    rfl

lemma of_sameStack (hs : s.state.AtHost setup) (hm : s'.state.Sound setup)
    (ht : s'.state.context.SameStack s.state.context)
    (hi : s'.state.context.instructions = s.state.context.instructions) :
    Neutral setup s [] s' :=
  ⟨hs.of_sameStack hm ht, ht, by simp, fun _ => hi.ge, fun _ _ => rfl⟩

lemma single (hs : s.state.AtHost setup) (moment : Moment) (hm : moment.Sound setup)
    (hl : ∀ k, History.lastPush k [moment] = none) : Neutral setup s [moment] s :=
  ⟨hs, .refl _, by simpa using hm, fun _ => le_rfl, fun k _ => hl k⟩

lemma asked {op : HostOp} (hs : s.state.AtHost setup) (hn : Neutral setup s h s') :
    Neutral setup s (.asked op s.state :: h) s' :=
  (single hs (.asked op s.state) hs fun _ => rfl).trans hn

lemma nested {op : HostOp} {r : Except VmError Unit} (hs : s.state.AtHost setup)
    (hn : Neutral setup s h s') (hn' : Neutral setup s' h' s'') :
    Neutral setup s (.asked op s.state :: (h ++ .ended r s'.state :: h')) s'' :=
  asked hs (hn.trans ((single hn.atHost (.ended r s'.state) hn.atHost fun _ => rfl).trans hn'))

lemma started (hs : s.state.AtHost setup) (function : Nat) :
    Neutral setup s [] (started function s) :=
  of_sameStack hs ⟨hs.memory, hs.context⟩ (.refl _) rfl

lemma of_concluded {r : Except VmError Unit} (hs : s.state.AtHost setup) (hi : s'.state.Sound setup)
    (hc : Concluded s.state.context s'.state.context s''.state.context r)
    (hm : s''.state.memory.SameShape s'.state.memory)
    (hn : 0 < s.state.context.activeCalls →
      s.state.context.instructions ≤ s'.state.context.instructions)
    (ht : ∀ moment ∈ h, moment.Sound setup)
    (ha : ∀ k < s.state.context.depth, h.lastPush k = none) : Neutral setup s h s'' := by
  have hsound : s''.state.context.Sound setup := by
    refine hs.context.of_sameStack hc.stack ?_ ?_ ?_
    · rw [hc.maxDepth, hi.context.maxDepth, hs.context.maxDepth]
    · rw [hc.localLimit, hi.context.localLimit, hs.context.localLimit]
    · exact fun hz _ => (hc.outermost (hc.stack.activeCalls ▸ hz)).1
  exact ⟨hs.of_sameStack ⟨hi.memory.of_sameShape hm, hsound⟩ hc.stack, hc.stack, ht,
    fun hpos => hc.instructions.symm ▸ hn hpos, ha⟩

end Neutral

lemma answer_neutral {setup : Setup} {label : String} {op : HostOp} {s s' : Recorded Machine}
    {a : op.Answer} (hs : s.state.AtHost setup) (ht : target? label s.state op = none)
    (ha : answer noCalls setup label op s = (a, s')) :
    Neutral setup s [] s' ∧ s'.state.context.pending = s.state.context.pending := by
  have hrefl : Neutral setup s [] s := .of_sameStack hs hs.toSound (.refl _) rfl
  cases op with
  | look =>
    cases ha
    exact ⟨hrefl, rfl⟩
  | memory op =>
    cases ha
    have hm : (op.apply s.state.memory).2.Fits setup := op.apply_fits hs.memory
    exact ⟨.of_sameStack hs ⟨hm, hs.context⟩ ⟨rfl, rfl, rfl, rfl⟩ rfl, rfl⟩
  | resetProfile =>
    cases ha
    exact ⟨.of_sameStack hs ⟨hs.memory, hs.context⟩ ⟨rfl, rfl, rfl, rfl⟩ rfl, rfl⟩
  | reset =>
    simp only [answer, settle, reset] at ha
    by_cases hr : s.state.context.isRunning
    · rw [if_pos hr] at ha
      cases ha
      exact ⟨hrefl, rfl⟩
    · rw [if_neg hr] at ha
      cases ha
      have hz : s.state.context.activeCalls = 0 := by simpa [Context.isRunning] using hr
      obtain ⟨hf, hv, hst, hp⟩ := hs.context.idle hz
      refine ⟨⟨Machine.atHost_restart hs, ?_, by simp, fun hpos => absurd hz hpos.ne',
        fun _ _ => rfl⟩, hp.symm⟩
      exact ⟨hf.symm, hv.symm, hst.symm, hz.symm⟩
  | call function =>
    cases hp : s.state.context.pending with
    | none => simp [target?, hp] at ht
    | some err =>
      simp only [answer, hp] at ha
      cases ha
      exact ⟨hrefl, hp⟩
  | execute function caller => cases ht
  | note text =>
    cases ha
    exact ⟨.of_sameStack hs hs.toSound (.refl _) rfl, rfl⟩

lemma raisePending_cases {r r' : Except VmError Unit} {s s' : Recorded Machine}
    (hr : settle (raisePending r) s = (r', s')) :
    (∃ err, s.state.context.pending = some err ∧ r' = .error (.runtime err) ∧
      s' = mapContext (fun c => { c with pending := none }) s) ∨
    s.state.context.pending = none ∧ r' = r ∧ s' = s := by
  simp only [settle, raisePending] at hr
  cases hp : s.state.context.pending with
  | some err =>
    rw [hp] at hr
    cases hr
    exact .inl ⟨err, rfl, rfl, rfl⟩
  | none =>
    rw [hp] at hr
    cases r <;> cases hr <;> exact .inr ⟨rfl, rfl, rfl⟩

lemma raisePending_neutral {setup : Setup} {r r' : Except VmError Unit} {s s' : Recorded Machine}
    (hs : s.state.AtHost setup) (hr : settle (raisePending r) s = (r', s')) :
    Neutral setup s [] s' := by
  rcases raisePending_cases hr with ⟨err, -, -, rfl⟩ | ⟨-, -, rfl⟩
  · refine .of_sameStack hs ⟨hs.memory, ?_⟩ ⟨rfl, rfl, rfl, rfl⟩ rfl
    exact hs.context.of_sameStack ⟨rfl, rfl, rfl, rfl⟩ rfl rfl fun _ _ => rfl
  · exact .of_sameStack hs hs.toSound (.refl _) rfl

/-- The loop of a call that began at `base` and has pushed `first :: rest` so far, from `s` to
`s'`: when it succeeds all its frames are gone, when it fails the first one is still there. -/
structure LoopEnds (setup : Setup) (base : Context) (first : Push) (rest : List Push)
    (s : Recorded Machine) (h : History) (r : Except VmError Unit) (s' : Recorded Machine) :
    Prop where
  sound : s'.state.Sound setup
  moments : ∀ moment ∈ h, moment.Sound setup
  counted : s.state.context.instructions ≤ s'.state.context.instructions
  above : ∀ k ≤ base.depth, h.lastPush k = none
  returned : r = .ok () → s'.state.context.SameStack base ∧ ∀ x, first.frame.Covers x →
    s'.state.memory.globals.cells[x]? = first.machine.memory.globals.cells[x]?
  failed : ∀ err, r = .error err → ∃ rest',
    Context.Grown setup.image.parts.globals.size base (first :: rest') s'.state.context ∧
    History.Tracks base.depth (first :: rest) h (first :: rest')

namespace LoopEnds

variable {setup : Setup} {base : Context} {first : Push} {rest rest' : List Push}
  {s s' s'' : Recorded Machine} {h h' : History} {r : Except VmError Unit}

lemma error (hs : s'.state.InCall setup base (first :: rest))
    (hm : ∀ moment ∈ h, moment.Sound setup)
    (hi : s.state.context.instructions ≤ s'.state.context.instructions)
    (hl : ∀ k < base.depth + (first :: rest).length, h.lastPush k = none) (err : VmError) :
    LoopEnds setup base first rest s h (.error err) s' where
  sound := hs.sound
  moments := hm
  counted := hi
  above := fun k hk => hl k (by rw [List.length_cons]; omega)
  returned := fun he => by cases he
  failed := fun _ _ => ⟨rest, hs.grown, .quiet hl⟩

lemma after (hn : LoopEnds setup base first rest' s' h' r s'')
    (hm : ∀ moment ∈ h, moment.Sound setup)
    (hi : s.state.context.instructions ≤ s'.state.context.instructions)
    (hl : ∀ k ≤ base.depth, h.lastPush k = none)
    (ht : History.Tracks base.depth (first :: rest) h (first :: rest')) :
    LoopEnds setup base first rest s (h ++ h') r s'' where
  sound := hn.sound
  moments := by
    intro moment hmem
    rcases List.mem_append.mp hmem with hmem | hmem
    · exact hm moment hmem
    · exact hn.moments moment hmem
  counted := hi.trans hn.counted
  above := by
    intro k hk
    rw [History.lastPush_append, hl k hk, hn.above k hk]
    rfl
  returned := hn.returned
  failed := by
    intro err he
    obtain ⟨rest'', hg, ht'⟩ := hn.failed err he
    exact ⟨rest'', hg, ht.trans ht'⟩

end LoopEnds

section Dispatched

variable {setup : Setup} {st : Statement} {m : Machine}

lemma dispatch_of_sound (hc : setup.Checked) (hs : (Moment.dispatched st m).Sound setup) :
    Exec.Ends (Exec.dispatch setup st) m (Exec.Effect setup m) (Exec.Harmless m) := by
  obtain ⟨hsound, hne, hst⟩ := hs
  cases hf : m.context.frames.back? with
  | none => exact absurd (Array.back?_eq_none_iff.mp hf) hne
  | some frame =>
    have hw := hsound.context.windows frame (Array.mem_def.mp (Array.mem_of_back? hf))
    exact Exec.dispatch_ends hc hsound.memory hf hw hst

lemma effect_of_ok (hc : setup.Checked) (hs : (Moment.dispatched st m).Sound setup) {flow : Flow}
    {m' : Machine} (hd : Exec.dispatch setup st m = .ok flow m') :
    Exec.Effect setup m flow m' := by
  have he := dispatch_of_sound hc hs
  rw [Exec.Ends, hd] at he
  exact he

lemma harmless_of_error (hc : setup.Checked) (hs : (Moment.dispatched st m).Sound setup)
    {fault : Fault} {m' : Machine} (hd : Exec.dispatch setup st m = .error fault m') :
    Exec.Harmless m fault m' := by
  have he := dispatch_of_sound hc hs
  rw [Exec.Ends, hd] at he
  exact he

end Dispatched

lemma exists_concat (first : Push) (rest : List Push) : ∃ ps p, first :: rest = ps ++ [p] := by
  obtain hnil | ⟨ps, p, hps⟩ := List.eq_nil_or_concat (first :: rest)
  · cases hnil
  · exact ⟨ps, p, List.concat_eq_append ▸ hps⟩

section Fetch

variable {linked : Linked} {base : Context} {first : Push} {rest : List Push}
  {s : Recorded Machine} {st : Statement}

lemma tick_inCall {ps : List Push} (hs : s.state.InCall linked.setup base ps) :
    (mapContext Context.tick s).state.InCall linked.setup base ps := by
  refine hs.of_sameStack ⟨hs.sound.memory, ?_⟩ ⟨rfl, rfl, rfl, rfl⟩
  exact hs.sound.context.of_sameStack ⟨rfl, rfl, rfl, rfl⟩ rfl rfl
    fun hz => absurd hz hs.running.ne'

lemma ready_inCall {ps : List Push} (hs : s.state.InCall linked.setup base ps) (st : Statement) :
    (ready linked.setup st s).state.InCall linked.setup base ps := by
  have ht := tick_inCall hs
  refine ⟨⟨?_, ?_⟩, ?_, ?_⟩
  · rw [ready_memory]
    exact hs.sound.memory
  · rw [ready_context]
    exact ht.sound.context
  · rw [ready_context]
    exact ht.grown
  · rw [ready_context]
    exact ht.running

lemma dispatched_sound (hs : s.state.InCall linked.setup base (first :: rest))
    (hf : Fetches linked s st) :
    (Moment.dispatched st (ready linked.setup st s).state).Sound linked.setup := by
  refine ⟨(ready_inCall hs st).sound, (ready_inCall hs st).frames_ne, ?_⟩
  rw [ready_context]
  exact hf.2

lemma LoopEnds.due (hs : s.state.InCall linked.setup base (first :: rest)) (err : VmError) :
    LoopEnds linked.setup base first rest s [.due s.state] (.error err)
      (mapContext Context.tick s) := by
  have hm : (Moment.due s.state).Sound linked.setup := hs.sound
  exact .error (tick_inCall hs) (List.forall_mem_singleton.mpr hm) (Nat.le_succ _)
    (fun _ _ => rfl) err

lemma LoopEnds.fetched {s' : Recorded Machine} {h : History} {r : Except VmError Unit}
    (hs : s.state.InCall linked.setup base (first :: rest)) (hf : Fetches linked s st)
    (hn : LoopEnds linked.setup base first rest (ready linked.setup st s) h r s') :
    LoopEnds linked.setup base first rest s
      (.due s.state :: .dispatched st (ready linked.setup st s).state :: h) r s' := by
  have hm : ∀ moment ∈ [Moment.due s.state, .dispatched st (ready linked.setup st s).state],
      moment.Sound linked.setup :=
    List.forall_mem_cons.mpr ⟨hs.sound, List.forall_mem_singleton.mpr (dispatched_sound hs hf)⟩
  refine hn.after hm ?_ (fun _ _ => rfl) (.quiet fun _ _ => rfl)
  rw [ready_context]
  exact Nat.le_succ _

lemma fetches_lt (hf : Fetches linked s st) : (ready linked.setup st s).state.context.statement <
    linked.setup.image.parts.statements.size := by
  rw [ready_context]
  exact (Array.getElem?_eq_some_iff.mp hf.2).1

end Fetch

section Step

variable {setup : Setup} {base : Context} {ps : List Push} {m m' : Machine}

lemma pushes_enter (m : Machine) (function : Nat) (entry : FunctionEntry) (globals : Globals) :
    pushes m (m.enter function entry globals) = [.pushed function m] := by
  simp [pushes, Machine.enter, Context.pushed, Context.depth, Context.setStatement,
    Context.currentFunction, Context.newFrame]

lemma pushes_cases (hc : setup.Checked) (hs : m.InCall setup base ps) (hne : ps ≠ [])
    (hst : m.context.statement < setup.image.parts.statements.size)
    (he : Exec.Effect setup m .running m') :
    (pushes m m' = [] ∧ m'.InCall setup base ps) ∨
      ∃ function entry globals, setup.image.function? function = some entry ∧
        entry.isBuiltin = false ∧
        Context.push function entry (m.context, m.memory.globals) =
          .ok () (m.context.pushed function entry m.memory.globals, globals) ∧
        pushes m m' = [.pushed function m] ∧ m' = m.enter function entry globals ∧
        m'.InCall setup base (ps ++ [⟨m.context.newFrame function entry, m⟩]) := by
  cases he with
  | @moved statement memory ht hm =>
    exact .inl ⟨if_neg (lt_irrefl m.context.depth), hs.moved (by omega) hm⟩
  | @entered function entry globals hz hf hb hg hp =>
    refine .inr ⟨function, entry, globals, hf, hb, hp, pushes_enter .., rfl, ?_⟩
    exact hs.entered hc (fun _ => hst) (fun h => absurd h hne) hz hf hb hg

lemma running_inCall (hc : setup.Checked) (hs : m.InCall setup base ps) (hne : ps ≠ [])
    (hst : m.context.statement < setup.image.parts.statements.size)
    (he : Exec.Effect setup m .running m') :
    ∃ more, m'.InCall setup base (ps ++ more) ∧
      History.Tracks base.depth ps (pushes m m') (ps ++ more) ∧
      (∀ k < base.depth + ps.length, (pushes m m').lastPush k = none) ∧
      ∀ moment ∈ pushes m m', moment.Sound setup := by
  rcases pushes_cases hc hs hne hst he with
    ⟨hp, hin⟩ | ⟨function, entry, globals, -, -, -, hp, -, hin⟩
  · rw [hp]
    refine ⟨[], ?_, ?_, fun _ _ => rfl, by simp⟩
    · rw [List.append_nil]
      exact hin
    · rw [List.append_nil]
      exact .refl _ _
  · rw [hp]
    have hd := hs.grown.depth
    refine ⟨_, hin, ?_, ?_, ?_⟩
    · exact History.Tracks.concat (p := ⟨m.context.newFrame function entry, m⟩) hd
    · intro k hk
      simp [History.lastPush, show m.context.depth ≠ k by omega]
    · exact List.forall_mem_singleton.mpr hs.sound

lemma returned_eq {p : Push} (hs : m.InCall setup base (ps ++ [p]))
    (he : Exec.Effect setup m .returned m') : ∃ globals : Globals,
      globals.cells.size = m.memory.globals.cells.size ∧ m' = m.leave p.frame globals := by
  cases he with
  | @returned frame globals hf hg =>
    rw [hs.grown.back?] at hf
    cases hf
    exact ⟨globals, hg, rfl⟩

lemma resumed_inCall {first : Push} {rest : List Push}
    (hs : m.InCall setup base (first :: rest)) (he : Exec.Effect setup m .returned m')
    (hx : base.depth < m'.context.depth) : ∃ rest' p, rest = rest' ++ [p] ∧
      (m'.mapContext fun c => c.setStatement (c.statement + 1)).InCall setup base
        (first :: rest') := by
  obtain ⟨ps, p, hps⟩ := exists_concat first rest
  rw [hps] at hs
  obtain ⟨globals, hg, rfl⟩ := returned_eq hs he
  obtain ⟨hin, hcur, -⟩ := hs.returned hg
  cases ps with
  | nil =>
    have hd := hin.grown.depth
    rw [List.length_nil] at hd
    omega
  | cons q rest' =>
    obtain ⟨rfl, rfl⟩ : first = q ∧ rest = rest' ++ [p] := by simpa using hps
    exact ⟨rest', p, rfl, hin.setStatement (hcur hin.frames_ne)⟩

lemma exited_rest {first : Push} {rest : List Push} (hs : m.InCall setup base (first :: rest))
    (he : Exec.Effect setup m .returned m') (hx : m'.context.depth ≤ base.depth) : rest = [] := by
  obtain ⟨ps, p, hps⟩ := exists_concat first rest
  rw [hps] at hs
  obtain ⟨globals, hg, rfl⟩ := returned_eq hs he
  have hd := (hs.returned hg).1.grown.depth
  obtain rfl : ps = [] := List.eq_nil_of_length_eq_zero (by omega)
  exact (List.cons.inj hps).2

lemma LoopEnds.exited {s : Recorded Machine} {first : Push} {rest : List Push}
    (hs : s.state.InCall setup base (first :: rest)) (he : Exec.Effect setup s.state .returned m')
    (hx : m'.context.depth ≤ base.depth) (journal : Journal) :
    LoopEnds setup base first rest s [] (.ok ()) ⟨m', journal⟩ := by
  have hi := he.sameCall.instructions.ge
  obtain rfl := exited_rest hs he hx
  have hfirst : s.state.InCall setup base ([] ++ [first]) := hs
  obtain ⟨globals, hg, rfl⟩ := returned_eq hfirst he
  obtain ⟨hin, -, hmem⟩ := hfirst.returned hg
  refine ⟨hin.sound, by simp, hi, fun _ _ => rfl, fun _ => ?_, fun _ he => by cases he⟩
  refine ⟨hin.grown.sameStack (hs.grown.origin first (by simp)), fun x hx => ?_⟩
  have hcell := Push.getElem?_restore hs.grown.fits (hg.trans hs.sound.memory.globals) x
  rw [← hmem] at hcell
  simpa [hx] using hcell

lemma builtin_eq {function argc : Nat} (he : Exec.Effect setup m (.builtin function argc) m') :
    m' = m := by
  cases he
  rfl

end Step

lemma inCall_beginCall {setup : Setup} {s : Recorded Machine} (hs : s.state.AtHost setup) :
    (mapContext Context.beginCall s).state.InCall setup s.state.context.beginCall [] := by
  have hpos : 0 < s.state.context.beginCall.activeCalls := by
    rw [Context.beginCall_activeCalls]
    omega
  have hsound : s.state.context.beginCall.Sound setup := by
    have h := hs.context
    refine ⟨?_, ?_, ?_, ?_, ?_, ?_, ?_, fun hz => absurd hz hpos.ne'⟩
    · simpa using h.laid
    · simpa using h.windows
    · simpa using h.callers
    · simpa using h.resumes
    · simpa using h.statement
    · simpa using h.maxDepth
    · simpa using h.localLimit
  exact ⟨⟨hs.memory, hsound⟩, .refl _ _, hpos⟩

lemma entered_inCall {setup : Setup} {s : Recorded Machine} (hc : setup.Checked)
    (hs : s.state.AtHost setup) {function : Nat} {entry : FunctionEntry} {globals : Globals}
    (hz : function ≠ 0) (hf : setup.image.function? function = some entry)
    (hb : entry.isBuiltin = false) (hg : globals.cells.size = s.state.memory.globals.cells.size) :
    ((mapContext Context.beginCall s).state.enter function entry globals).InCall setup
      s.state.context.beginCall
      [⟨s.state.context.beginCall.newFrame function entry,
        (mapContext Context.beginCall s).state⟩] := by
  refine (inCall_beginCall hs).entered hc ?_ (fun _ => rfl) hz hf hb hg
  intro hne
  simpa using hs.current (by simpa using hne)

lemma enter_error {setup : Setup} {s : Recorded Machine} (hc : setup.Checked)
    (hs : s.state.AtHost setup) {function : Nat} {fault : Fault} {m : Machine}
    (he : Exec.enter setup function (mapContext Context.beginCall s).state = .error fault m) :
    m = (mapContext Context.beginCall s).state := by
  rcases Exec.enter_cases hc (inCall_beginCall hs).sound.memory function with
    ⟨fault', he', -⟩ | ⟨entry, globals, -, -, -, -, -, he'⟩
  · rw [he'] at he
    cases he
    rfl
  · rw [he'] at he
    cases he

lemma enter_ok {setup : Setup} {s : Recorded Machine} (hc : setup.Checked)
    (hs : s.state.AtHost setup) {function : Nat} {m : Machine}
    (he : Exec.enter setup function (mapContext Context.beginCall s).state = .ok () m) :
    ∃ entry globals, setup.image.function? function = some entry ∧
      m = (mapContext Context.beginCall s).state.enter function entry globals ∧
      m.InCall setup s.state.context.beginCall
        [⟨s.state.context.beginCall.newFrame function entry,
          (mapContext Context.beginCall s).state⟩] := by
  rcases Exec.enter_cases hc (inCall_beginCall hs).sound.memory function with
    ⟨fault', he', -⟩ | ⟨entry, globals, hz, hf, hb, hg, -, he'⟩
  · rw [he'] at he
    cases he
  · rw [he'] at he
    cases he
    exact ⟨entry, globals, hf, rfl, entered_inCall hc hs hz hf hb hg⟩

lemma LoopEnds.concluded {setup : Setup} {first : Push} {rest : List Push}
    {s start s' : Recorded Machine} {h : History} {r : Except VmError Unit}
    (hn : LoopEnds setup s.state.context.beginCall first rest start h r s') (function : Nat)
    (caller : String) :
    Concluded s.state.context s'.state.context
      (conclude setup function caller s.state.context.mark r s').state.context r ∧
    (conclude setup function caller s.state.context.mark r s').state.memory.SameShape
      s'.state.memory := by
  cases r with
  | ok _ => exact ⟨conclude_ok setup function caller (hn.returned rfl).1, .refl _⟩
  | error err =>
    obtain ⟨rest', hg, -⟩ := hn.failed err rfl
    obtain ⟨hc, hm⟩ := conclude_error setup function caller hg hn.sound.memory.globals err
    refine ⟨hc, ?_⟩
    rw [hm]
    exact .of_globals (Push.size_restore _ _)

lemma refused_concluded {setup : Setup} {s : Recorded Machine} (hs : s.state.AtHost setup)
    (function : Nat) (caller : String) (err : VmError) :
    Concluded s.state.context s.state.context.beginCall
      (conclude setup function caller s.state.context.mark (.error err)
        (mapContext Context.beginCall s)).state.context (.error err) ∧
    (conclude setup function caller s.state.context.mark (.error err)
      (mapContext Context.beginCall s)).state.memory = s.state.memory :=
  have hb := inCall_beginCall hs
  conclude_error setup function caller hb.grown hb.sound.memory.globals err

lemma Neutral.entered {setup : Setup} {first : Push} {rest : List Push}
    {s start s' : Recorded Machine} {h : History} {r : Except VmError Unit}
    (hs : s.state.AtHost setup)
    (hi : s.state.context.beginCall.instructions ≤ start.state.context.instructions)
    (hn : LoopEnds setup s.state.context.beginCall first rest start h r s') (function : Nat)
    (caller : String) :
    Neutral setup s (.pushed function (mapContext Context.beginCall s).state :: h)
      (conclude setup function caller s.state.context.mark r s') := by
  have hcount (hpos : 0 < s.state.context.activeCalls) :
      s.state.context.instructions ≤ s'.state.context.instructions :=
    calc s.state.context.instructions
      _ = s.state.context.beginCall.instructions := by rw [Context.beginCall_eq _ hpos]
      _ ≤ start.state.context.instructions := hi
      _ ≤ s'.state.context.instructions := hn.counted
  have hmoments : ∀ moment ∈ Moment.pushed function (mapContext Context.beginCall s).state :: h,
      moment.Sound setup := by
    intro moment hm
    rcases List.mem_cons.mp hm with rfl | hm
    · exact (inCall_beginCall hs).sound
    · exact hn.moments moment hm
  have habove (k : Nat) (hk : k < s.state.context.depth) : History.lastPush k
      (Moment.pushed function (mapContext Context.beginCall s).state :: h) = none := by
    have hl := hn.above k (by rw [Context.beginCall_depth]; exact hk.le)
    simp [History.lastPush, hl, hk.ne']
  obtain ⟨hcon, hshape⟩ := hn.concluded function caller
  exact .of_concluded hs hn.sound hcon hshape hcount hmoments habove

def Outcome (linked : Linked) :
    Activity → Recorded Machine → History → Except VmError Unit → Recorded Machine → Prop
  | .loop _ exitDepth, s, h, r, s' => ∀ base first rest, base.depth = exitDepth →
    s.state.InCall linked.setup base (first :: rest) →
    LoopEnds linked.setup base first rest s h r s'
  | .call .., s, h, _, s' | .builtin .., s, h, _, s' | .host .., s, h, _, s' =>
    s.state.AtHost linked.setup → Neutral linked.setup s h s'

theorem Runs.outcome {linked : Linked} (hc : linked.setup.Checked) {act : Activity}
    {s s' : Recorded Machine} {h : History} {r : Except VmError Unit}
    (hr : Runs linked act s h r s') : Outcome linked act s h r s' := by
  induction hr with
  | @refused function caller s fault m he =>
    intro hs
    obtain rfl := enter_error hc hs he
    have hn (hpos : 0 < s.state.context.activeCalls) : s.state.context.instructions ≤
        (mapContext Context.beginCall s).state.context.instructions :=
      (congrArg Context.instructions (Context.beginCall_eq _ hpos)).ge
    obtain ⟨hcon, hmem⟩ := refused_concluded hs function caller
      (located linked.setup caller fault (mapContext Context.beginCall s).state)
    exact .of_concluded hs (inCall_beginCall hs).sound hcon (hmem ▸ .refl _) hn (by simp)
      fun _ _ => rfl
  | @entered function caller s s' m h r he hl ih =>
    intro hs
    obtain ⟨entry, globals, -, rfl, hin⟩ := enter_ok hc hs he
    exact .entered hs le_rfl (ih _ _ _ (Context.beginCall_depth _) hin) function caller
  | runaway hi => exact fun base first rest _ hs => .due hs _
  | fellOff hi hst => exact fun base first rest _ hs => .due hs _
  | @faulted caller exitDepth s st fault m hf hd =>
    intro base first rest hbase hs
    obtain ⟨rfl, -⟩ := harmless_of_error hc (dispatched_sound hs hf) hd
    exact .fetched hs hf (.error (ready_inCall hs st) (by simp) le_rfl (fun _ _ => rfl) _)
  | @advanced caller exitDepth s s' st m h r hf hd hl ih =>
    intro base first rest hbase hs
    have he := effect_of_ok hc (dispatched_sound hs hf) hd
    obtain ⟨more, hin, htr, hq, hm⟩ :=
      running_inCall hc (ready_inCall hs st) (by simp) (fetches_lt hf) he
    have hnext := ih base first (rest ++ more) hbase hin
    refine .fetched hs hf (hnext.after hm he.sameCall.instructions.ge (fun k hk => hq k ?_) htr)
    rw [List.length_cons]
    omega
  | @exited caller exitDepth s st m hf hd hx =>
    intro base first rest hbase hs
    have he := effect_of_ok hc (dispatched_sound hs hf) hd
    exact .fetched hs hf (.exited (ready_inCall hs st) he (hbase ▸ hx) _)
  | @resumed caller exitDepth s s' st m h r hf hd hx hl ih =>
    intro base first rest hbase hs
    have he := effect_of_ok hc (dispatched_sound hs hf) hd
    obtain ⟨rest', p, rfl, hin⟩ := resumed_inCall (ready_inCall hs st) he (hbase ▸ hx)
    have hnext := ih base first rest' hbase hin
    have htr : History.Tracks base.depth (first :: (rest' ++ [p])) [] (first :: rest') :=
      .dropLast base.depth (first :: rest')
    exact .fetched hs hf (hnext.after (by simp) he.sameCall.instructions.ge (fun _ _ => rfl) htr)
  | @builtinFailed caller exitDepth s s' st m function argc h err hf hd hb ih =>
    intro base first rest hbase hs
    obtain rfl := builtin_eq (effect_of_ok hc (dispatched_sound hs hf) hd)
    have hr := ready_inCall hs st
    have hn := ih ⟨hr.sound, fun _ => fetches_lt hf⟩
    have hpos := hr.running
    refine .fetched hs hf (.error (hr.of_sameStack hn.atHost.toSound hn.stack) hn.moments
      (hn.counted hpos) ?_ _)
    rw [← hr.grown.depth]
    exact hn.above
  | @builtinReturned caller exitDepth s s' s'' st m function argc h h' r hf hd hb hl ihb ih =>
    intro base first rest hbase hs
    obtain rfl := builtin_eq (effect_of_ok hc (dispatched_sound hs hf) hd)
    have hr := ready_inCall hs st
    have hn := ihb ⟨hr.sound, fun _ => fetches_lt hf⟩
    have hq (k : Nat) (hk : k < base.depth + (first :: rest).length) : h.lastPush k = none :=
      hn.above k (hr.grown.depth ▸ hk)
    have hin := (hr.of_sameStack hn.atHost.toSound hn.stack).setStatement (fetches_lt hf)
    rw [ready_context] at hin
    have hnext := ih base first rest hbase hin
    refine .fetched hs hf (hnext.after hn.moments (hn.counted hr.running) (fun k hk => hq k ?_)
      (.quiet hq))
    rw [List.length_cons]
    omega
  | unbound hb => exact fun hs => .of_sameStack hs ⟨hs.memory, hs.context⟩ (.refl _) rfl
  | unavailable hb hd => exact fun hs => .of_sameStack hs ⟨hs.memory, hs.context⟩ (.refl _) rfl
  | @hosted caller function argc s s' s'' b h r r' hb hd hh hr ih =>
    intro hs
    have h₁ := Neutral.started hs function
    have h₂ := Neutral.single h₁.atHost (.hosted function _) h₁.atHost fun _ => rfl
    have h₃ := h₂.trans (ih h₁.atHost)
    simpa using h₁.trans (h₃.trans (raisePending_neutral h₃.atHost hr))
  | done => exact fun hs => .of_sameStack hs hs.toSound (.refl _) rfl
  | answered ht ha hh ih =>
    intro hs
    have hn := (answer_neutral hs ht ha).1
    exact .asked hs (hn.trans (ih hn.atHost))
  | called hp hc hh ihc ih =>
    intro hs
    exact .nested hs (ihc hs) (ih (ihc hs).atHost)
  | executed hc hh ihc ih =>
    intro hs
    exact .nested hs (ihc hs) (ih (ihc hs).atHost)

end GameVm.Call
