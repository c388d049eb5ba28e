import GameVm.Proofs.Activations

/-! Faults and their traces: a fault that arises at any point of a run is reported with the chain of
calls that it arose in. -/

namespace GameVm

namespace Call

/-- An activity fails at once: with a fault of the machine, in a call under the label `caller`. The
history goes up to the point where the error is made out. -/
inductive Faults (linked : Linked) :
    Activity → Recorded Machine → History → String → Fault → Machine → Prop
  | refused {function : Nat} {caller : String} {s : Recorded Machine} {fault : Fault} {m : Machine}
      (he : Exec.enter linked.setup function (mapContext Context.beginCall s).state =
        .error fault m) :
      Faults linked (.call function caller) s [] caller fault m
  | fellOff {caller : String} {exitDepth : Nat} {s : Recorded Machine}
      (hi : s.state.context.instructions < linked.setup.settings.maxInstructions)
      (hs : linked.setup.image.parts.statements[s.state.context.statement]? = none) :
      Faults linked (.loop caller exitDepth) s [.due s.state] caller
        (.statementOutOfRange s.state.context.statement) (mapContext Context.tick s).state
  | faulted {caller : String} {exitDepth : Nat} {s : Recorded Machine} {st : Statement}
      {fault : Fault} {m : Machine} (hf : Fetches linked s st)
      (hd : Exec.dispatch linked.setup st (ready linked.setup st s).state = .error fault m) :
      Faults linked (.loop caller exitDepth) s
        [.due s.state, .dispatched st (ready linked.setup st s).state] caller fault m
  | accessed {caller : String} {exitDepth : Nat} {s s' : Recorded Machine} {st : Statement}
      {m : Machine} {function argc : Nat} {h : History} {err : AccessError}
      (hf : Fetches linked s st)
      (hd : Exec.dispatch linked.setup st (ready linked.setup st s).state =
        .ok (.builtin function argc) m)
      (hb : Runs linked (.builtin caller function argc) ⟨m, (ready linked.setup st s).journal⟩ h
        (.error (.access err)) s') :
      Faults linked (.loop caller exitDepth) s
        (.due s.state :: .dispatched st (ready linked.setup st s).state :: h) caller (.access err)
        s'.state
  | unbound {caller : String} {function argc : Nat} {s : Recorded Machine}
      (hb : linked.bound[function]?.join = none) :
      Faults linked (.builtin caller function argc) s [] caller
        (.unbound (linked.setup.image.functionName function)) (charged s).state
  | unavailable {caller : String} {function argc : Nat} {s : Recorded Machine} {b : Builtin}
      (hb : linked.bound[function]? = some (some b))
      (hd : b.domains.contains linked.setup.domain = false) :
      Faults linked (.builtin caller function argc) s [] caller
        (.unavailable b.name linked.setup.domain b.domains) (charged s).state

def Raises (linked : Linked) (act : Activity) (s : Recorded Machine) (h : History)
    (caller : String) (fault : Fault) (m : Machine) : Prop :=
  ∃ h₁ h₂ act' s', Leads linked act s h₁ act' s' ∧ Faults linked act' s' h₂ caller fault m ∧
    h = h₁ ++ h₂

end Call

/-- The number of the statement that a fault arises at: the one that the innermost activation has
dispatched, or the one behind the last when there was none to dispatch. -/
def Fault.ArisesAt (image : Image) (a : Activation) (statement : Nat) : Fault → Prop
  | .statementOutOfRange n => n = statement ∧ statement = image.parts.statements.size
  | _ => a.last = some statement

lemma Fault.arisesAt_of_last {image : Image} {a : Activation} {statement : Nat} {fault : Fault}
    (hf : ∀ n, fault ≠ .statementOutOfRange n) (ha : a.last = some statement) :
    fault.ArisesAt image a statement := by
  cases fault with
  | statementOutOfRange n => exact absurd rfl (hf n)
  | _ => exact ha

lemma Exec.ne_outOfRange_of_enter {setup : Setup} {function : Nat} {m m' : Machine} {fault : Fault}
    (h : enter setup function m = .error fault m') (n : Nat) : fault ≠ .statementOutOfRange n := by
  have he : Ends (enter setup function) m (fun _ _ => True)
      fun fault _ => fault ≠ .statementOutOfRange n := by
    rw [enter]
    split
    · exact ends_bind (ends_throw (by simp))
    · split
      case h_2 => exact ends_throw (by simp)
      case h_1 entry he =>
        split
        · exact ends_bind (ends_throw (by simp))
        · exact ends_bind (ends_onFrames (fun _ _ _ => trivial) fun _ _ _ => by simp)
  rw [Ends, h] at he
  exact he

namespace Call

structure Placed (image : Image) (as : List Activation) (fault : Fault) (c : Context) : Prop where
  chained : c.Chained image as
  innermost : ∀ a ∈ as.getLast?, fault.ArisesAt image a c.statement

variable {linked : Linked} {s s' : Recorded Machine} {h : History} {running : List Activation}
  {act : Activity} {caller : String} {fault : Fault} {m : Machine}

lemma Placed.of_atCall {image : Image} {as : List Activation} {c : Context}
    (hf : c.Chained image as ∧ c.AtCall image as) (hn : ∀ n, fault ≠ .statementOutOfRange n) :
    Placed image as fault c :=
  ⟨hf.1, fun a ha => fault.arisesAt_of_last hn (hf.2 a ha).1⟩

theorem Faults.placed (hc : linked.setup.Checked) (hx : Faults linked act s h caller fault m)
    (hs : act.Stands linked.setup s.state)
    (hf : act.Follows linked.setup.image (running.take s.state.context.depth) s.state.context) :
    Placed linked.setup.image ((h.foldl Moment.follow running).take m.context.depth) fault
      m.context := by
  cases hx with
  | @refused function _ _ _ _ he =>
    obtain rfl := enter_error hc hs he
    have hbegin : s.state.context.beginCall.AtCall linked.setup.image
        (running.take s.state.context.depth) := by
      rw [Context.AtCall, Context.beginCall_statement]
      exact hf.2
    rw [List.foldl_nil, mapContext_context, Context.beginCall_depth]
    exact .of_atCall ⟨hf.1.of_frames (Context.beginCall_frames _), hbegin⟩
      (Exec.ne_outOfRange_of_enter he)
  | fellOff hi hst =>
    obtain ⟨base, first, rest, -, hs⟩ := hs
    have hend : s.state.context.statement = linked.setup.image.parts.statements.size :=
      le_antisymm hs.sound.context.statement (Array.getElem?_eq_none_iff.mp hst)
    have htake : ([Moment.due s.state].foldl Moment.follow running).take s.state.context.depth =
        running.take s.state.context.depth := by
      simp only [List.foldl_cons, List.foldl_nil, Moment.follow, List.take_take, min_self]
    refine ⟨?_, fun a _ => ⟨rfl, hend⟩⟩
    rw [mapContext_context, Context.tick, Context.depth]
    exact htake ▸ hf.of_frames rfl
  | @faulted _ exitDepth _ st _ _ hfetch hd =>
    obtain ⟨base, first, rest, -, hs⟩ := hs
    obtain ⟨rfl, hdata⟩ := harmless_of_error hc (dispatched_sound hs hfetch) hd
    have hch := dispatching_chained hf linked.setup st
    have hrange (n : Nat) : fault ≠ .statementOutOfRange n := by
      rintro rfl
      exact hdata
    rw [foldl_fetched, List.foldl_nil, hch.take_depth]
    refine ⟨hch, fun a ha => fault.arisesAt_of_last hrange ?_⟩
    rw [ready_context]
    exact last_of_dispatching hf.length ha
  | @accessed _ exitDepth _ s₁ st m function argc h err hfetch hd hb =>
    obtain ⟨base, first, rest, -, hs⟩ := hs
    have hsound := dispatched_sound hs hfetch
    obtain rfl := builtin_eq (effect_of_ok hc hsound hd)
    have hch := dispatching_chained hf linked.setup st
    have hcall := Exec.isCall_of_dispatch hsound.1.memory.whole hd (.inl ⟨_, _, rfl⟩)
    have hat := (stands_builtin hs hfetch).1
    rw [foldl_fetched]
    exact .of_atCall (Neutral.follows (hb.outcome hc hat) (hb.above hc hat)
      ⟨hch, dispatching_atCall hf linked.setup hfetch.2 hcall⟩) (by simp)
  | unbound hb => exact .of_atCall hf (by simp)
  | unavailable hb hd => exact .of_atCall hf (by simp)

theorem Raises.placed (hc : linked.setup.Checked) {function : Nat} {label : String}
    (hx : Raises linked (.call function label) s h caller fault m)
    (hs : s.state.AtHost linked.setup) (hz : s.state.context.activeCalls = 0) :
    Placed linked.setup.image (h.activations m) fault m.context := by
  obtain ⟨h₁, h₂, act, s', hl, hx, rfl⟩ := hx
  have hstart : (Activity.call function label).Follows linked.setup.image
      (([] : List Activation).take s.state.context.depth) s.state.context := by
    rw [List.take_nil]
    exact ⟨.nil (hs.context.idle hz).1, fun a ha => by cases ha⟩
  rw [History.activations, List.foldl_append]
  exact hx.placed hc (hl.stands hc hs) (hl.follows hc hs hstart)

lemma traceFrom_functions (image : Image) (statement : Nat) (frames : List Frame) :
    (traceFrom image statement frames).map (·.function) =
      frames.map (image.functionName ·.function) := by
  induction frames generalizing statement with
  | nil => rfl
  | cons frame outer ih => simp only [traceFrom, List.map_cons, ih]

lemma traceFrom_head? {image : Image} {statement : Nat} {frames : List Frame} {t : TraceEntry}
    (ht : (traceFrom image statement frames).head? = some t) : t.statement = statement := by
  cases frames with
  | nil => cases ht
  | cons frame outer =>
    cases ht
    rfl

lemma traceFrom_succ {image : Image} {statement k : Nat} {frames : List Frame} {t : TraceEntry}
    (ht : (traceFrom image statement frames)[k + 1]? = some t) :
    ∃ frame, frames[k]? = some frame ∧ t.statement = frame.callerStatement := by
  induction frames generalizing statement k with
  | nil => cases ht
  | cons frame outer ih =>
    rw [traceFrom, List.getElem?_cons_succ] at ht
    cases k with
    | zero => exact ⟨frame, rfl, traceFrom_head? (by rwa [List.head?_eq_getElem?])⟩
    | succ k =>
      obtain ⟨caller, hcaller, hstatement⟩ := ih ht
      exact ⟨caller, hcaller, hstatement⟩

end Call

/-- The error tells of the activations, the innermost first: of each of them its function and the
statement it stands at, which is the call of the one above it. The error's own place is that of the
innermost one; where there is none, the label of the call stands for the function. -/
structure ExecutionError.Tells (image : Image) (caller : String) (as : List Activation)
    (e : ExecutionError) : Prop where
  functions : e.trace.map (·.function) = as.reverse.map (image.functionName ·.function)
  innermost : ∀ a t, as.getLast? = some a → e.trace.head? = some t →
    e.fault.ArisesAt image a t.statement
  callers : ∀ k a t, as.reverse[k + 1]? = some a → e.trace[k + 1]? = some t →
    a.Calls image t.statement
  place : ∀ t, e.trace.head? = some t → e.function = t.function ∧ e.statement = t.statement
  label : e.trace = [] → e.function = caller

namespace Call

lemma located_trace (setup : Setup) (caller : String) (fault : Fault) (m : Machine) :
    ∃ e, located setup caller fault m = .runtime (.execution e) ∧ e.fault = fault ∧
      e.trace = traceFrom setup.image m.context.statement m.context.frames.toList.reverse ∧
      (∀ t, e.trace.head? = some t → e.function = t.function ∧ e.statement = t.statement) ∧
      (e.trace = [] → e.function = caller) := by
  rw [located]
  cases traceFrom setup.image m.context.statement m.context.frames.toList.reverse with
  | nil => exact ⟨_, rfl, rfl, rfl, by simp, fun _ => rfl⟩
  | cons top outer => exact ⟨_, rfl, rfl, rfl, by simp, by simp⟩

lemma Placed.tells {setup : Setup} {as : List Activation} {fault : Fault} {m : Machine}
    (hp : Placed setup.image as fault m.context) (caller : String) :
    ∃ e, located setup caller fault m = .runtime (.execution e) ∧ e.fault = fault ∧
      e.Tells setup.image caller as := by
  obtain ⟨e, he, hfault, htrace, hplace, hlabel⟩ := located_trace setup caller fault m
  refine ⟨e, he, hfault, ?_, ?_, ?_, hplace, hlabel⟩
  · have hf := congrArg (List.map setup.image.functionName) hp.chained.functions
    rw [htrace, traceFrom_functions, List.map_reverse, List.map_reverse]
    rw [List.map_map, List.map_map] at hf
    exact congrArg List.reverse hf.symm
  · intro a t ha ht
    rw [htrace] at ht
    rw [hfault, traceFrom_head? ht]
    exact hp.innermost a ha
  · intro k a t ha ht
    rw [htrace] at ht
    obtain ⟨frame, hframe, hstatement⟩ := traceFrom_succ ht
    -- Counted from the innermost frame, the caller of frame `k` is frame `k + 1`.
    have hlen := hp.chained.length
    have hk : k + 1 < as.length := by simpa using (List.getElem?_eq_some_iff.mp ha).1
    rw [List.getElem?_reverse hk] at ha
    rw [List.getElem?_reverse (by simp [Context.depth] at hlen; simp; omega)] at hframe
    rw [hstatement]
    refine hp.chained.callers _ a frame ha ?_
    rw [← Array.getElem?_toList, ← hframe]
    congr 1
    simp only [Context.depth] at hlen
    simp only [Array.length_toList]
    omega

def Shown (err : RuntimeError) (h : History) (r : Except VmError Unit) : Prop :=
  r = .error (.runtime err) ∨ ∃ m, .ended (.error (.runtime err)) m ∈ h

def MadeOut (linked : Linked) (act : Activity) (s : Recorded Machine) (h : History)
    (err : RuntimeError) : Prop :=
  ∃ before caller fault m, before <+: h ∧ Raises linked act s before caller fault m ∧
    located linked.setup caller fault m = .runtime err

def HandedOver (linked : Linked) (act : Activity) (s : Recorded Machine) (h : History)
    (err : RuntimeError) : Prop :=
  ∃ before label s', before <+: h ∧
    Leads linked act s before (.host label (.done (.error (.runtime err)))) s'

def Origin (linked : Linked) (act : Activity) (s : Recorded Machine) (h : History)
    (err : RuntimeError) : Prop :=
  MadeOut linked act s h err ∨ HandedOver linked act s h err ∨
    s.state.context.pending = some err

section Origins

variable {linked : Linked} {act act' : Activity} {s s' : Recorded Machine} {h h' : History}
  {r : Except VmError Unit} {err : RuntimeError}

lemma Origin.append (ho : Origin linked act s h err) (h' : History) :
    Origin linked act s (h ++ h') err := by
  rcases ho with ⟨before, caller, fault, m, hb, hx⟩ | ⟨before, label, s', hb, hl⟩ | hp
  · exact .inl ⟨before, caller, fault, m, hb.trans (List.prefix_append _ _), hx⟩
  · exact .inr (.inl ⟨before, label, s', hb.trans (List.prefix_append _ _), hl⟩)
  · exact .inr (.inr hp)

lemma Origin.of_faults {caller : String} {fault : Fault} {m : Machine}
    (hx : Faults linked act s h caller fault m)
    (he : located linked.setup caller fault m = .runtime err) : Origin linked act s h err :=
  .inl ⟨h, caller, fault, m, List.prefix_rfl, ⟨[], h, act, s, .refl, hx, rfl⟩, he⟩

lemma ended_of_firstFault (hf : History.firstFault h = some err) :
    ∃ m, .ended (.error (.runtime err)) m ∈ h := by
  obtain ⟨moment, hmem, hfault⟩ := List.exists_of_findSome?_eq_some hf
  cases moment with
  | ended r m =>
    cases r with
    | ok _ => cases hfault
    | error e =>
      cases e with
      | runtime e =>
        cases hfault
        exact ⟨m, hmem⟩
      | _ => cases hfault
  | _ => cases hfault

lemma pending_source {pending pending' : Option RuntimeError}
    (hp : pending' = pending.or (History.firstFault h)) (he : pending' = some err) :
    pending = some err ∨ ∃ m, .ended (.error (.runtime err)) m ∈ h := by
  rw [hp] at he
  cases pending with
  | some e => exact .inl he
  | none => exact .inr (ended_of_firstFault he)

lemma raisePending_source {s'' : Recorded Machine}
    (hr : settle (raisePending r) s' = (.error (.runtime err), s'')) :
    r = .error (.runtime err) ∨ s'.state.context.pending = some err := by
  rcases raisePending_cases hr with ⟨e, hp, he, -⟩ | ⟨-, hr, -⟩
  · cases he
    exact .inr hp
  · exact .inl hr.symm

lemma Origin.after (hc : linked.setup.Checked) (hp : Proceeds linked act s h act' s')
    (hs : act.Stands linked.setup s.state)
    (hearlier : (∃ m, .ended (.error (.runtime err)) m ∈ h) → Origin linked act s h err)
    (ho : Origin linked act' s' h' err) : Origin linked act s (h ++ h') err := by
  rcases ho with ⟨before, caller, fault, m, hb, ⟨h₁, h₂, act₁, s₁, hl, hx, rfl⟩, he⟩ |
    ⟨before, label, s₁, hb, hl⟩ | hpend
  · refine .inl ⟨h ++ (h₁ ++ h₂), caller, fault, m, (List.prefix_append_right_inj h).mpr hb, ?_, he⟩
    exact ⟨h ++ h₁, h₂, act₁, s₁, hl.head hp, hx, (List.append_assoc ..).symm⟩
  · exact .inr (.inl ⟨h ++ before, label, s₁, (List.prefix_append_right_inj h).mpr hb, hl.head hp⟩)
  · rcases pending_source (hp.pending hc hs) hpend with hpend | hended
    · exact .inr (.inr hpend)
    · exact (hearlier hended).append h'

lemma ended_notMem_pushes (r : Except VmError Unit) (m m₁ m₂ : Machine) :
    Moment.ended r m ∉ pushes m₁ m₂ := by
  rw [pushes]
  split_ifs <;> simp

lemma Origin.nested (hc : linked.setup.Checked) {op : HostOp} {call : Activity}
    {r' : Except VmError Unit}
    (hcalled : Proceeds linked act s [.asked op s.state] call s)
    (hended : Proceeds linked act s (.asked op s.state :: (h ++ [.ended r s'.state])) act' s')
    (hs : act.Stands linked.setup s.state) (hinside : Shown err h r → Origin linked call s h err)
    (hlater : Shown err h' r' → Origin linked act' s' h' err)
    (hsh : Shown err (.asked op s.state :: (h ++ .ended r s'.state :: h')) r') :
    Origin linked act s (.asked op s.state :: (h ++ .ended r s'.state :: h')) err := by
  have hearlier (hsh : Shown err h r) :
      Origin linked act s (.asked op s.state :: (h ++ [.ended r s'.state])) err :=
    (Origin.after hc hcalled hs (by simp) (hinside hsh)).append [.ended r s'.state]
  have hrest (hsh : Shown err h' r') :
      Origin linked act s (.asked op s.state :: (h ++ [.ended r s'.state]) ++ h') err := by
    refine .after hc hended hs (fun ⟨m, hm⟩ => hearlier ?_) (hlater hsh)
    simp only [List.mem_cons, reduceCtorEq, List.mem_append, Moment.ended.injEq, List.not_mem_nil,
      or_false, false_or] at hm
    rcases hm with hm | ⟨rfl, -⟩
    · exact .inr ⟨m, hm⟩
    · exact .inl rfl
  rw [List.append_cons, ← List.cons_append]
  rcases hsh with hsh | ⟨m, hm⟩
  · exact hrest (.inl hsh)
  · simp only [List.mem_cons, reduceCtorEq, List.mem_append, Moment.ended.injEq, false_or] at hm
    rcases hm with hm | ⟨rfl, -⟩ | hm
    · exact (hearlier (.inr ⟨m, hm⟩)).append h'
    · exact (hearlier (.inl rfl)).append h'
    · exact hrest (.inr ⟨m, hm⟩)

/-- Every error of an execution that shows in a run was made out in the course of it or handed over
by code of the host, unless it was pending from before. -/
theorem Runs.origin (hc : linked.setup.Checked) (hr : Runs linked act s h r s')
    (hs : act.Stands linked.setup s.state) {e : ExecutionError}
    (hsh : Shown (.execution e) h r) : Origin linked act s h (.execution e) := by
  induction hr with
  | refused he =>
    rcases hsh with hsh | ⟨m, hm⟩
    · exact .of_faults (.refused he) (Except.error.inj hsh)
    · cases hm
  | @entered function caller s s' m h r he hl ih =>
    have hstage : Proceeds linked (.call function caller) s _ _ _ := .entered he
    refine .after hc hstage hs (by simp) (ih (hstage.stands hc hs) ?_)
    simpa [Shown] using hsh
  | runaway hi =>
    rcases hsh with hsh | ⟨m, hm⟩
    · cases hsh
    · simp at hm
  | fellOff hi hst =>
    rcases hsh with hsh | ⟨m, hm⟩
    · exact .of_faults (.fellOff hi hst) (Except.error.inj hsh)
    · simp at hm
  | faulted hf hd =>
    rcases hsh with hsh | ⟨m, hm⟩
    · exact .of_faults (.faulted hf hd) (Except.error.inj hsh)
    · simp at hm
  | @advanced caller exitDepth s s' st m h r hf hd hl ih =>
    have hstage : Proceeds linked (.loop caller exitDepth) s _ _ _ := .advanced hf hd
    refine .after hc hstage hs ?_ (ih (hstage.stands hc hs) ?_)
    · simp [ended_notMem_pushes]
    · simpa [Shown, ended_notMem_pushes] using hsh
  | exited hf hd hx => simp [Shown] at hsh
  | @resumed caller exitDepth s s' st m h r hf hd hx hl ih =>
    have hstage : Proceeds linked (.loop caller exitDepth) s _ _ _ := .resumed hf hd hx
    refine .after hc hstage hs (by simp) (ih (hstage.stands hc hs) ?_)
    simpa [Shown] using hsh
  | @builtinFailed caller exitDepth s s' st m function argc h err hf hd hb ih =>
    have hstage : Proceeds linked (.loop caller exitDepth) s _ _ _ := .builtinCalled hf hd
    have hinside (hsh : Shown (.execution e) h (.error err)) :=
      Origin.after hc hstage hs (by simp) (ih (hstage.stands hc hs) hsh)
    rcases hsh with hsh | ⟨m, hm⟩
    · cases err with
      | access err => exact .of_faults (.accessed hf hd hb) (Except.error.inj hsh)
      | _ => exact hinside (.inl hsh)
    · exact hinside (.inr ⟨m, by simpa using hm⟩)
  | @builtinReturned caller exitDepth s s' s'' st m function argc h h' r hf hd hb hl ihb ih =>
    have hcalled : Proceeds linked (.loop caller exitDepth) s _ _ _ := .builtinCalled hf hd
    have hstage : Proceeds linked (.loop caller exitDepth) s _ _ _ := .builtinReturned hf hd hb
    have hinside (hm : ∃ m, .ended (.error (.runtime (.execution e))) m ∈ h) :=
      Origin.after hc hcalled hs (by simp) (ihb (hcalled.stands hc hs) (.inr hm))
    have hlater (hsh : Shown (.execution e) h' r) :=
      Origin.after hc hstage hs (fun hm => hinside (by simpa using hm))
        (ih (hstage.stands hc hs) hsh)
    rcases hsh with hsh | ⟨m, hm⟩
    · exact hlater (.inl hsh)
    · simp only [List.mem_cons, List.mem_append, reduceCtorEq, false_or] at hm
      rcases hm with hm | hm
      · exact (hinside ⟨m, hm⟩).append h'
      · exact hlater (.inr ⟨m, hm⟩)
  | unbound hb =>
    rcases hsh with hsh | ⟨m, hm⟩
    · exact .of_faults (.unbound hb) (Except.error.inj hsh)
    · cases hm
  | unavailable hb hd =>
    rcases hsh with hsh | ⟨m, hm⟩
    · exact .of_faults (.unavailable hb hd) (Except.error.inj hsh)
    · cases hm
  | @hosted caller function argc s s' s'' b h r r' hb hd hh hr ih =>
    have hstage : Proceeds linked (.builtin caller function argc) s _ _ _ := .hosted hb hd
    have hstands := hstage.stands hc hs
    have hinside (hsh : Shown (.execution e) h r) :=
      Origin.after hc hstage hs (by simp) (ih hstands hsh)
    rcases hsh with rfl | ⟨m, hm⟩
    · rcases raisePending_source hr with hsame | hpend
      · exact hinside (.inl hsame)
      · rcases pending_source (hh.leads_done.pending hc hstands) hpend with hpend | hended
        · exact .inr (.inr hpend)
        · exact hinside (.inr hended)
    · exact hinside (.inr ⟨m, by simpa using hm⟩)
  | @done label r s =>
    rcases hsh with rfl | ⟨m, hm⟩
    · exact .inr (.inl ⟨[], label, s, List.prefix_rfl, .refl⟩)
    · cases hm
  | @answered label op next s s' s'' a h r ht ha hh ih =>
    have hstage : Proceeds linked (.host label (.ask op next)) s _ _ _ := .answered ht ha
    refine .after hc hstage hs (by simp) (ih (hstage.stands hc hs) ?_)
    simpa [Shown] using hsh
  | @called label function next s s' s'' h h' r r' hp hcall hh ihc ih =>
    have hended : Proceeds linked (.host label (.ask (.call function) next)) s _ _ _ :=
      .callEnded hp hcall
    exact .nested hc (.called hp) hended hs (fun hsh => ihc hs.1 hsh)
      (fun hsh => ih (hended.stands hc hs) hsh) hsh
  | @executed label function caller next s s' s'' h h' r r' hcall hh ihc ih =>
    have hended : Proceeds linked (.host label (.ask (.execute function caller) next)) s _ _ _ :=
      .executeEnded hcall
    exact .nested hc .executed hended hs (fun hsh => ihc hs.1 hsh)
      (fun hsh => ih (hended.stands hc hs) hsh) hsh

end Origins

end Call

/-- In an outermost call, whenever a fault arises, at any depth of calls that code of the host has
made in turn, the error tells of the functions that are running then. And no call inside it, nor the
outermost one, ends with an error of an execution that is not made out in this way, unless code of
the host hands it over. -/
theorem Instance.faults_tell_call_chain {i : Instance} (hi : i.Created) {m : Machine}
    (hm : i.Reaches m) (hz : m.context.activeCalls = 0) (function : Nat) (label : String)
    (journal : Journal) :
    let act := Call.Activity.call function label
    let out := Call.settle (Call.execute i.linked function label) ⟨m, journal⟩
    let h := Call.history i.linked function label ⟨m, journal⟩
    (∀ before caller fault m',
      Call.Raises i.linked act ⟨m, journal⟩ before caller fault m' →
        (before.activations m').map (·.function) =
          m'.context.frames.toList.map (·.function) ∧
        ∃ e, Call.located i.linked.setup caller fault m' = .runtime (.execution e) ∧
          e.fault = fault ∧ e.Tells i.image caller (before.activations m')) ∧
    ∀ e, Call.Shown (.execution e) h out.1 →
      Call.MadeOut i.linked act ⟨m, journal⟩ h (.execution e) ∨
        Call.HandedOver i.linked act ⟨m, journal⟩ h (.execution e) := by
  intro act out h
  have hs : (⟨m, journal⟩ : Recorded Machine).state.AtHost i.linked.setup := hi.reaches_atHost hm
  constructor
  · intro before caller fault m' hx
    have hplaced := hx.placed hi.checked hs hz
    exact ⟨hplaced.chained.functions, hplaced.tells caller⟩
  · intro e hsh
    have hidle : m.context.pending = none := (hs.context.idle hz).2.2.2
    rcases (Call.execute_runs hi.checked hs function label).origin hi.checked hs hsh with
      hmade | hhanded | hpend
    · exact .inl hmade
    · exact .inr hhanded
    · rw [hidle] at hpend
      cases hpend

/-! The relay on a server to which one of its builtins is not open. -/

namespace Relay

def clientStop : Builtin := ⟨"stop", .only .client, fun _ => Service.abort "stop"⟩

def deferring : Settings := { settings with builtinBinding := .deferred }

def blocked : Instance where
  linked := ⟨Setup.ofImage .server (Image.ofParts parts) deferring,
    #[none, none, none, some ask, some clientStop]⟩
  machine := Machine.fresh (Setup.ofImage .server (Image.ofParts parts) deferring) 4
    (Image.ofParts parts).parts.entityCells.toNat

lemma blocked_bind : BuiltinTable.bind ⟨#[ask, clientStop]⟩ .server .deferred
    (Image.ofParts parts) = .ok #[none, none, none, some ask, some clientStop] := by
  have hname₃ : (Image.ofParts parts).functionName 3 = "ask" := by decide +kernel
  have hname₄ : (Image.ofParts parts).functionName 4 = "stop" := by decide +kernel
  have hask : BuiltinTable.resolve ⟨#[ask, clientStop]⟩ .server .deferred "ask" = .ok ask := by
    simp [BuiltinTable.resolve, BuiltinTable.get?, show ask.name = "ask" from rfl]
  have hstop : BuiltinTable.resolve ⟨#[ask, clientStop]⟩ .server .deferred "stop" =
      .ok clientStop := by
    simp [BuiltinTable.resolve, BuiltinTable.get?, show ask.name = "ask" from rfl,
      show clientStop.name = "stop" from rfl]
  have hf : (Image.ofParts parts).parts.functions.toList = functions := rfl
  rw [BuiltinTable.bind, hf]
  simp only [functions, BuiltinTable.bindFrom, FunctionEntry.isBuiltin, hname₃, hname₄, hask, hstop]
  rfl

lemma blocked_created : blocked.Created := by
  have ho : Instance.optionsFlaw? (Image.ofParts parts) { entityCapacity := 4 } = none := by
    decide +kernel
  have hbind : BuiltinTable.bind ⟨#[ask, clientStop]⟩ .server deferring.builtinBinding
      (Image.ofParts parts) = .ok blocked.linked.bound := blocked_bind
  obtain ⟨journal, hb⟩ := Instance.bringUp_of_bind ho hbind #[]
  exact ⟨parts.encode, _, decode_encode, _, .server, _, _, #[], journal, hb⟩

/-- The second function faults at its call, below it the first one stands at the call of the builtin
that has called the second. -/
theorem blocked_call_tells_both_functions :
    let out := Call.settle (Call.execute blocked.linked 1 "host") ⟨blocked.machine, #[]⟩
    let e : ExecutionError := ⟨.unavailable "stop" .server (.only .client), 5, "callee",
      [⟨"callee", 5⟩, ⟨"main", 2⟩]⟩
    out.1 = .error (.runtime (.execution e)) ∧
    ∃ before caller m, Call.Raises blocked.linked (.call 1 "host") ⟨blocked.machine, #[]⟩ before
        caller e.fault m ∧ e.Tells blocked.image caller (before.activations m) := by
  intro out e
  obtain ⟨htells, horigin⟩ := Instance.faults_tell_call_chain blocked_created
    blocked.reaches_machine rfl 1 "host" #[]
  have hout : out.1 = .error (.runtime (.execution e)) := by decide +kernel
  refine ⟨hout, ?_⟩
  rcases horigin e (.inl hout) with ⟨before, caller, fault, m, -, hx, he⟩ |
    ⟨before, label, s', -, hl⟩
  · obtain ⟨-, e', he', rfl, ht⟩ := htells before caller fault m hx
    rw [he] at he'
    cases he'
    exact ⟨before, caller, m, hx, ht⟩
  · -- Neither of the two builtins can end with such an error.
    have hleaves := hl.leaves (P := fun r => ∀ e, r ≠ .error (.runtime (.execution e))) ?_
    · exact absurd rfl (hleaves e)
    · intro function b site hb
      have hmem : b = ask ∨ b = clientStop := by
        simpa [blocked] using Array.mem_of_getElem? hb
      rcases hmem with rfl | rfl
      · intro answer e he
        cases he
      · intro e he
        cases he

end Relay

end GameVm
