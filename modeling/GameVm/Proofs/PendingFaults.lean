import GameVm.Proofs.Restoration

/-! Runtime errors of nested calls: the first one ends the outermost call. -/

namespace GameVm

def Moment.fault? : Moment → Option RuntimeError
  | .ended r _ => Call.fault? r
  | _ => none

def Moment.Active : Moment → Prop
  | .dispatched .. | .pushed .. => True
  | _ => False

def History.firstFault (h : History) : Option RuntimeError := h.findSome? Moment.fault?

lemma History.firstFault_append (h h' : History) :
    firstFault (h ++ h') = (firstFault h).or (firstFault h') := List.findSome?_append

lemma History.firstFault_cons_of_none {moment : Moment} (hm : moment.fault? = none) (h : History) :
    firstFault (moment :: h) = firstFault h := by
  simp [firstFault, hm]

lemma History.firstFault_ended (r : Except VmError Unit) (m : Machine) (h : History) :
    firstFault (.ended r m :: h) = (Call.fault? r).or (firstFault h) := by
  simp only [firstFault, List.findSome?_cons, Moment.fault?]
  cases Call.fault? r <;> rfl

namespace Call

/-- What has become of a pending fault and the first fault of a history: there is none new and the
pending one stays, or the earlier of the two has been raised. -/
def Raised (pending fault : Option RuntimeError) (r : Except VmError Unit)
    (pending' : Option RuntimeError) : Prop :=
  (fault = none ∧ pending' = pending) ∨
    ∃ err, pending.or fault = some err ∧ r = .error (.runtime err) ∧ pending' = none

lemma raised_quiet (pending : Option RuntimeError) (r : Except VmError Unit) :
    Raised pending none r pending := .inl ⟨rfl, rfl⟩

lemma Raised.of_ok {pending fault pending' : Option RuntimeError}
    (h : Raised pending fault (.ok ()) pending') : fault = none ∧ pending' = pending := by
  rcases h with h | ⟨err, -, hr, -⟩
  · exact h
  · cases hr

lemma Raised.concluded {pending fault pending' : Option RuntimeError} {r : Except VmError Unit}
    (h : Raised pending fault r pending') :
    pending'.or (fault? r) = pending.or (fault.or (fault? r)) := by
  rcases h with ⟨rfl, rfl⟩ | ⟨err, he, rfl, rfl⟩
  · rw [Option.none_or]
  · rw [← Option.or_assoc, he]
    rfl

def FaultOutcome (linked : Linked) :
    Activity → Recorded Machine → History → Except VmError Unit → Recorded Machine → Prop
  | .loop .., s, h, r, s' | .builtin .., s, h, r, s' =>
    Raised s.state.context.pending (History.firstFault h) r s'.state.context.pending
  | .call .., s, h, r, s' => s.state.AtHost linked.setup →
    s'.state.context.pending =
      s.state.context.pending.or ((History.firstFault h).or (fault? r))
  | .host .., s, h, _, s' =>
    s'.state.context.pending = s.state.context.pending.or (History.firstFault h)

lemma Raised.relocate {pending fault pending' : Option RuntimeError} {err : VmError}
    (h : Raised pending fault (.error err) pending') (setup : Setup) (caller : String)
    (m : Machine) :
    Raised pending fault (.error (relocate setup caller err m)) pending' := by
  rcases h with h | ⟨e, he, hr, hp⟩
  · exact .inl h
  · cases hr
    exact .inr ⟨e, he, rfl, hp⟩

lemma firstFault_pushes (m m' : Machine) : History.firstFault (pushes m m') = none := by
  rw [pushes]
  split_ifs <;> rfl

lemma Raised.fetched {setup : Setup} {st : Statement} {s : Recorded Machine} {h : History}
    {r : Except VmError Unit} {pending' : Option RuntimeError}
    (hr : Raised (ready setup st s).state.context.pending (History.firstFault h) r pending') :
    Raised s.state.context.pending (History.firstFault
      (.due s.state :: .dispatched st (ready setup st s).state :: h)) r pending' := by
  rw [ready_pending] at hr
  exact hr

lemma raisePending_raised {pending fault : Option RuntimeError} {r r' : Except VmError Unit}
    {s s' : Recorded Machine} (hp : s.state.context.pending = pending.or fault)
    (hr : settle (raisePending r) s = (r', s')) :
    Raised pending fault r' s'.state.context.pending := by
  rcases raisePending_cases hr with ⟨err, hs, rfl, rfl⟩ | ⟨hs, rfl, rfl⟩
  · exact .inr ⟨err, hp.symm.trans hs, rfl, rfl⟩
  · rw [hs] at hp
    obtain ⟨rfl, rfl⟩ := Option.or_eq_none_iff.mp hp.symm
    exact .inl ⟨rfl, hs⟩

lemma nested_pending {linked : Linked} (hc : linked.setup.Checked) {op : HostOp} {function : Nat}
    {caller : String} {s s' s'' : Recorded Machine} {h h' : History} {r : Except VmError Unit}
    (hm : ∀ moment ∈ Moment.asked op s.state :: (h ++ .ended r s'.state :: h'),
      moment.Sound linked.setup)
    (hpos : 0 < s.state.context.activeCalls)
    (hcall : Runs linked (.call function caller) s h r s')
    (ihc : (∀ moment ∈ h, moment.Sound linked.setup) → 0 < s.state.context.activeCalls →
      FaultOutcome linked (.call function caller) s h r s')
    (ih : (∀ moment ∈ h', moment.Sound linked.setup) → 0 < s'.state.context.activeCalls →
      s''.state.context.pending = s'.state.context.pending.or (History.firstFault h')) :
    s''.state.context.pending = s.state.context.pending.or
      (History.firstFault (.asked op s.state :: (h ++ .ended r s'.state :: h'))) := by
  obtain ⟨hs, hm⟩ := List.forall_mem_cons.mp hm
  obtain ⟨hm₁, hm₂⟩ := List.forall_mem_append.mp hm
  have hn : Neutral linked.setup s h s' := hcall.outcome hc hs
  have h₁ := ihc hm₁ hpos hs
  have h₂ := ih (List.forall_mem_cons.mp hm₂).2 (hn.stack.activeCalls ▸ hpos)
  rw [History.firstFault_cons_of_none rfl, History.firstFault_append, History.firstFault_ended,
    h₂, h₁, Option.or_assoc, Option.or_assoc]

theorem Runs.faults {linked : Linked} (hc : linked.setup.Checked) {act : Activity}
    {s s' : Recorded Machine} {h : History} {r : Except VmError Unit}
    (hr : Runs linked act s h r s') (hm : ∀ moment ∈ h, moment.Sound linked.setup)
    (hpos : 0 < s.state.context.activeCalls) : FaultOutcome linked act s h r s' := by
  induction hr with
  | @refused function caller s fault m he =>
    intro hs
    obtain rfl := enter_error hc hs he
    have hcon := (refused_concluded hs function caller
      (located linked.setup caller fault (mapContext Context.beginCall s).state)).1
    have hp := (hcon.nested hpos.ne').2
    rw [Context.beginCall_eq _ hpos] at hp
    exact hp
  | @entered function caller s s' m h r he hl ih =>
    intro hs
    obtain ⟨entry, globals, -, rfl, hin⟩ := enter_ok hc hs he
    have hends := hl.outcome hc _ _ _ (Context.beginCall_depth _) hin
    have hp := ((hends.concluded function caller).1.nested hpos.ne').2
    have hraised := ih hends.moments hin.running
    simp only [FaultOutcome, Machine.enter, Context.setStatement, Context.pushed,
      mapContext_context, Context.beginCall_eq _ hpos] at hraised
    -- The error of a nested call becomes pending when the call is concluded.
    rw [hp, hraised.concluded]
    rfl
  | runaway hi => exact raised_quiet _ _
  | fellOff hi hs => exact raised_quiet _ _
  | @faulted caller exitDepth s st fault m hf hd =>
    obtain ⟨rfl, -⟩ := harmless_of_error hc (hm _ (by simp)) hd
    exact .fetched (raised_quiet _ _)
  | @advanced caller exitDepth s s' st m h r hf hd hl ih =>
    have he := (effect_of_ok hc (hm _ (by simp)) hd).sameCall
    have hact : 0 < m.context.activeCalls := by
      rw [he.activeCalls, ready_activeCalls]
      exact hpos
    have hraised := ih (fun moment hmem => hm _ (by simp [hmem])) hact
    refine .fetched ?_
    rw [History.firstFault_append, firstFault_pushes, Option.none_or, ← he.pending]
    exact hraised
  | @exited caller exitDepth s st m hf hd hx =>
    have he := (effect_of_ok hc (hm _ (by simp)) hd).sameCall
    refine .fetched ?_
    rw [← he.pending]
    exact raised_quiet _ _
  | @resumed caller exitDepth s s' st m h r hf hd hx hl ih =>
    have he := (effect_of_ok hc (hm _ (by simp)) hd).sameCall
    have hact : 0 < m.context.activeCalls := by
      rw [he.activeCalls, ready_activeCalls]
      exact hpos
    have hraised := ih (fun moment hmem => hm _ (by simp [hmem])) hact
    refine .fetched ?_
    rw [← he.pending]
    exact hraised
  | @builtinFailed caller exitDepth s s' st m function argc h err hf hd hb ih =>
    obtain rfl := builtin_eq (effect_of_ok hc (hm _ (by simp)) hd)
    rw [← ready_activeCalls linked.setup st] at hpos
    have hraised := ih (fun moment hmem => hm _ (by simp [hmem])) hpos
    exact .fetched (hraised.relocate ..)
  | @builtinReturned caller exitDepth s s' s'' st m function argc h h' r hf hd hb hl ihb ih =>
    have hsound := hm (.dispatched st (ready linked.setup st s).state) (by simp)
    obtain rfl := builtin_eq (effect_of_ok hc hsound hd)
    have hat : (ready linked.setup st s).state.AtHost linked.setup :=
      ⟨hsound.1, fun _ => fetches_lt hf⟩
    have hn : Neutral linked.setup _ _ _ := hb.outcome hc hat
    rw [← ready_activeCalls linked.setup st] at hpos
    obtain ⟨hfault, hp⟩ := (ihb hn.moments hpos).of_ok
    have hraised := ih (fun moment hmem => hm _ (by simp [hmem])) (hn.stack.activeCalls ▸ hpos)
    refine .fetched ?_
    rw [History.firstFault_append, hfault, Option.none_or, ← hp]
    exact hraised
  | unbound hb => exact raised_quiet _ _
  | unavailable hb hd => exact raised_quiet _ _
  | @hosted caller function argc s s' s'' b h r r' hb hd hh hr ih =>
    exact raisePending_raised (ih (List.forall_mem_cons.mp hm).2 hpos) hr
  | done => exact Option.or_none.symm
  | @answered label op next s s' s'' a h r ht ha hh ih =>
    obtain ⟨hs, hm⟩ := List.forall_mem_cons.mp hm
    obtain ⟨hn, hp⟩ := answer_neutral hs ht ha
    have hrest : s''.state.context.pending = _ := ih hm (hn.stack.activeCalls ▸ hpos)
    rw [hp] at hrest
    exact hrest
  | @called label function next s s' s'' h h' r r' hp hcall hh ihc ih =>
    exact nested_pending hc hm hpos hcall ihc ih
  | @executed label function caller next s s' s'' h h' r r' hcall hh ihc ih =>
    exact nested_pending hc hm hpos hcall ihc ih

section Quiet

variable {linked : Linked} {h h' : History}

def Quiet (h : History) : Prop := ∀ moment ∈ h, ¬ moment.Active

def QuietAfterFault (h : History) : Prop :=
  h.Pairwise fun earlier later => earlier.fault? ≠ none → ¬ later.Active

lemma QuietAfterFault.cons {moment : Moment} (hf : moment.fault? = none)
    (hq : QuietAfterFault h) : QuietAfterFault (moment :: h) :=
  List.pairwise_cons.mpr ⟨fun _ _ hne => absurd hf hne, hq⟩

lemma QuietAfterFault.append (hq : QuietAfterFault h) (hq' : QuietAfterFault h')
    (hf : History.firstFault h ≠ none → Quiet h') : QuietAfterFault (h ++ h') := by
  refine List.pairwise_append.mpr ⟨hq, hq', fun earlier he later hl hne => hf ?_ later hl⟩
  intro hnone
  exact hne (List.findSome?_eq_none_iff.mp hnone earlier he)

lemma quietAfterFault_pushes (m m' : Machine) : QuietAfterFault (pushes m m') := by
  rw [pushes]
  split_ifs
  · exact List.pairwise_singleton _ _
  · exact .nil

def QuietOutcome (linked : Linked) : Activity → Recorded Machine → History → Prop
  | .loop .., s, h | .builtin .., s, h => s.state.context.pending = none → QuietAfterFault h
  | .call .., s, h => s.state.AtHost linked.setup → s.state.context.pending = none →
    QuietAfterFault h
  | .host .., s, h => (s.state.context.pending ≠ none → Quiet h) ∧ QuietAfterFault h

def Calm (setup : Setup) (moment : Moment) : Prop :=
  moment.Sound setup ∧ ∀ function caller m, moment ≠ .asked (.execute function caller) m

theorem Runs.quiet (hc : linked.setup.Checked) {act : Activity} {s s' : Recorded Machine}
    {r : Except VmError Unit} (hr : Runs linked act s h r s')
    (hm : ∀ moment ∈ h, Calm linked.setup moment) (hpos : 0 < s.state.context.activeCalls) :
    QuietOutcome linked act s h := by
  induction hr with
  | refused he => exact fun _ _ => .nil
  | @entered function caller s s' m h r he hl ih =>
    intro hs hp
    obtain ⟨entry, globals, -, rfl, hin⟩ := enter_ok hc hs he
    refine .cons rfl (ih (List.forall_mem_cons.mp hm).2 hin.running ?_)
    simpa [Machine.enter, Context.setStatement, Context.pushed, Context.beginCall_eq _ hpos]
      using hp
  | runaway hi => exact fun _ => List.pairwise_singleton _ _
  | fellOff hi hs => exact fun _ => List.pairwise_singleton _ _
  | faulted hf hd => exact fun _ => .cons rfl (.cons rfl .nil)
  | @advanced caller exitDepth s s' st m h r hf hd hl ih =>
    intro hp
    have he := (effect_of_ok hc (hm _ (by simp)).1 hd).sameCall
    rw [← ready_activeCalls linked.setup st, ← he.activeCalls] at hpos
    have hp' : m.context.pending = none := by rw [he.pending, ready_pending, hp]
    have hq := ih (fun moment hmem => hm _ (by simp [hmem])) hpos hp'
    refine .cons rfl (.cons rfl ((quietAfterFault_pushes _ _).append hq ?_))
    exact fun hne => absurd (firstFault_pushes _ _) hne
  | exited hf hd hx => exact fun _ => .cons rfl (.cons rfl .nil)
  | @resumed caller exitDepth s s' st m h r hf hd hx hl ih =>
    intro hp
    have he := (effect_of_ok hc (hm _ (by simp)).1 hd).sameCall
    rw [← ready_activeCalls linked.setup st, ← he.activeCalls] at hpos
    have hp' : m.context.pending = none := by rw [he.pending, ready_pending, hp]
    exact .cons rfl (.cons rfl (ih (fun moment hmem => hm _ (by simp [hmem])) hpos hp'))
  | @builtinFailed caller exitDepth s s' st m function argc h err hf hd hb ih =>
    intro hp
    obtain rfl := builtin_eq (effect_of_ok hc (hm _ (by simp)).1 hd)
    rw [← ready_activeCalls linked.setup st] at hpos
    have hp' : (ready linked.setup st s).state.context.pending = none := by rw [ready_pending, hp]
    exact .cons rfl (.cons rfl (ih (fun moment hmem => hm _ (by simp [hmem])) hpos hp'))
  | @builtinReturned caller exitDepth s s' s'' st m function argc h h' r hf hd hb hl ihb ih =>
    intro hp
    have hsound := (hm (.dispatched st (ready linked.setup st s).state) (by simp)).1
    obtain rfl := builtin_eq (effect_of_ok hc hsound hd)
    have hat : (ready linked.setup st s).state.AtHost linked.setup :=
      ⟨hsound.1, fun _ => fetches_lt hf⟩
    have hn : Neutral linked.setup _ _ _ := hb.outcome hc hat
    rw [← ready_activeCalls linked.setup st] at hpos
    have hp' : (ready linked.setup st s).state.context.pending = none := by rw [ready_pending, hp]
    obtain ⟨hfault, hkept⟩ := (hb.faults hc hn.moments hpos).of_ok
    have hq := ihb (fun moment hmem => hm _ (by simp [hmem])) hpos hp'
    have hq' := ih (fun moment hmem => hm _ (by simp [hmem])) (hn.stack.activeCalls ▸ hpos)
      (hkept.trans hp')
    exact .cons rfl (.cons rfl (hq.append hq' fun hne => absurd hfault hne))
  | unbound hb => exact fun _ => .nil
  | unavailable hb hd => exact fun _ => .nil
  | @hosted caller function argc s s' s'' b h r r' hb hd hh hr ih =>
    exact fun _ => .cons rfl (ih (List.forall_mem_cons.mp hm).2 hpos).2
  | done => exact ⟨fun _ => by simp [Quiet], .nil⟩
  | @answered label op next s s' s'' a h r ht ha hh ih =>
    obtain ⟨hs, hm⟩ := List.forall_mem_cons.mp hm
    obtain ⟨hn, hp⟩ := answer_neutral hs.1 ht ha
    obtain ⟨hquiet, hafter⟩ := ih hm (hn.stack.activeCalls ▸ hpos)
    rw [hp] at hquiet
    exact ⟨fun hne => List.forall_mem_cons.mpr ⟨id, hquiet hne⟩, .cons rfl hafter⟩
  | @called label function next s s' s'' h h' r r' hp hcall hh ihc ih =>
    obtain ⟨hs, hm⟩ := List.forall_mem_cons.mp hm
    obtain ⟨hm₁, hm₂⟩ := List.forall_mem_append.mp hm
    have hn : Neutral linked.setup s h s' := hcall.outcome hc hs.1
    have hpending := hcall.faults hc hn.moments hpos hs.1
    obtain ⟨hquiet, hafter⟩ := ih (List.forall_mem_cons.mp hm₂).2 (hn.stack.activeCalls ▸ hpos)
    rw [hpending, hp, Option.none_or] at hquiet
    refine ⟨fun hne => absurd hp hne, .cons rfl ((ihc hm₁ hpos hs.1 hp).append ?_ ?_)⟩
    · refine List.pairwise_cons.mpr ⟨fun later hl hne => hquiet (fun hnone => ?_) later hl, hafter⟩
      exact hne (Option.or_eq_none_iff.mp hnone).2
    · intro hne
      refine List.forall_mem_cons.mpr ⟨id, hquiet fun hnone => ?_⟩
      exact hne (Option.or_eq_none_iff.mp hnone).1
  | @executed label function caller next s s' s'' h h' r r' hcall hh ihc ih =>
    -- The one request that would run a function in spite of a pending fault.
    exact absurd rfl ((hm _ List.mem_cons_self).2 function caller s.state)

end Quiet

section Outermost

variable {linked : Linked} {function : Nat} {caller : String} {s s' : Recorded Machine}
  {h : History} {r : Except VmError Unit}

lemma beginCall_pending (hz : s.state.context.activeCalls = 0) :
    s.state.context.beginCall.pending = none := by
  rw [Context.beginCall, if_pos hz]

lemma Runs.raises_firstFault (hc : linked.setup.Checked) (hs : s.state.AtHost linked.setup)
    (hp : s.state.context.beginCall.pending = none)
    (hr : Runs linked (.call function caller) s h r s') {err : RuntimeError}
    (hf : History.firstFault h = some err) : r = .error (.runtime err) := by
  cases hr with
  | refused he => cases hf
  | @entered _ _ _ s₁ m h r he hl =>
    obtain ⟨entry, globals, -, rfl, hin⟩ := enter_ok hc hs he
    have hends := hl.outcome hc _ _ _ (Context.beginCall_depth _) hin
    have hraised := hl.faults hc hends.moments hin.running
    rw [History.firstFault_cons_of_none rfl] at hf
    simp only [FaultOutcome, Machine.enter, Context.setStatement, Context.pushed,
      mapContext_context, hp, hf] at hraised
    rcases hraised with ⟨hnone, -⟩ | ⟨err', he', hr, -⟩
    · cases hnone
    · cases he'
      exact hr

lemma Runs.eq_firstFault (hc : linked.setup.Checked) (hs : s.state.AtHost linked.setup)
    (hz : s.state.context.activeCalls = 0) (hr : Runs linked (.call function caller) s h r s')
    {err : RuntimeError} (hf : History.firstFault h = some err) : r = .error (.runtime err) :=
  hr.raises_firstFault hc hs (beginCall_pending hz) hf

lemma Runs.quietAfterFault (hc : linked.setup.Checked) (hs : s.state.AtHost linked.setup)
    (hz : s.state.context.activeCalls = 0) (hr : Runs linked (.call function caller) s h r s')
    (hx : ∀ function caller m, Moment.asked (.execute function caller) m ∉ h) :
    QuietAfterFault h := by
  cases hr with
  | refused he => exact .nil
  | @entered _ _ _ s₁ m h r he hl =>
    obtain ⟨entry, globals, -, rfl, hin⟩ := enter_ok hc hs he
    have hends := hl.outcome hc _ _ _ (Context.beginCall_depth _) hin
    have hm : ∀ moment ∈ h, Calm linked.setup moment := by
      refine fun moment hmem => ⟨hends.moments moment hmem, ?_⟩
      rintro function caller m rfl
      exact hx function caller m (List.mem_cons_of_mem _ hmem)
    exact .cons rfl (hl.quiet hc hm hin.running (beginCall_pending hz))

end Outermost

end Call

/-- The first runtime error that a nested call ends with is the error of the outermost call. If code
of the host calls only while no fault is pending, nothing of the program runs after it. -/
theorem Instance.first_nested_fault_ends_call {i : Instance} (hi : i.Created) {m : Machine}
    (hm : i.Reaches m) (hz : m.context.activeCalls = 0) (function : Nat) (caller : String)
    (journal : Journal) :
    let out := Call.settle (Call.execute i.linked function caller) ⟨m, journal⟩
    let h := Call.history i.linked function caller ⟨m, journal⟩
    (∀ err, h.firstFault = some err → out.1 = .error (.runtime err) ∧
      out.2.state.context.state = CallState.after (.error (.runtime err))) ∧
    ((∀ function caller m, Moment.asked (.execute function caller) m ∉ h) →
      Call.QuietAfterFault h) := by
  intro out h
  have hs : (⟨m, journal⟩ : Recorded Machine).state.AtHost i.linked.setup := hi.reaches_atHost hm
  have hrun := Call.execute_runs hi.checked hs function caller
  refine ⟨fun err hf => ?_, hrun.quietAfterFault hi.checked hs hz⟩
  have hr : out.1 = .error (.runtime err) := hrun.eq_firstFault hi.checked hs hz hf
  refine ⟨hr, ?_⟩
  rw [← hr]
  exact ((Call.execute_concluded hi.checked hs function caller).outermost hz).2

theorem Relay.abort_ends_main :
    relay.Created ∧ relay.Reaches relay.machine ∧
    let out := Call.settle (Call.execute relay.linked 1 "host") ⟨relay.machine, #[]⟩
    let h := Call.history relay.linked 1 "host" ⟨relay.machine, #[]⟩
    h.firstFault = some (.abort "stop") ∧ out.1 = .error (.runtime (.abort "stop")) ∧
      out.2.state.context.state = .interrupted .abort ∧ Call.QuietAfterFault h := by
  have hreach := relay.reaches_machine
  obtain ⟨hfirst, hquiet⟩ :=
    Instance.first_nested_fault_ends_call created hreach rfl 1 "host" #[]
  have hf : History.firstFault (Call.history relay.linked 1 "host" ⟨relay.machine, #[]⟩) =
      some (.abort "stop") := by decide +kernel
  have hcalls : (Call.history relay.linked 1 "host" ⟨relay.machine, #[]⟩).all
      (fun moment => !(moment matches .asked (.execute ..) _)) = true := by decide +kernel
  obtain ⟨hr, hstate⟩ := hfirst _ hf
  refine ⟨created, hreach, hf, hr, hstate, hquiet fun function caller m hm => ?_⟩
  cases List.all_eq_true.mp hcalls _ hm

end GameVm
