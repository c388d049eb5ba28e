import GameVm.Proofs.Nesting
import GameVm.Proofs.PendingFaults

/-! Where the faults come from that calls end with: the machine raises them at a moment, or code of
the host makes them up. -/

namespace GameVm

def Fault.OfBuiltin : Fault → Prop
  | .unavailable .. | .unbound _ => True
  | _ => False

lemma Fault.DependsOnData.not_ofBuiltin {fault : Fault} (h : fault.DependsOnData) :
    ¬ fault.OfBuiltin := by
  intro hb
  cases fault <;> first | exact hb | exact h

namespace Exec

def fault? {α : Type} (act : Exec α) (m : Machine) : Option Fault :=
  match act m with
  | .ok .. => none
  | .error fault _ => some fault

lemma error_of_fault? {α : Type} {act : Exec α} {m : Machine} {fault : Fault}
    (h : fault? act m = some fault) : ∃ m', act m = .error fault m' := by
  rw [fault?] at h
  cases hr : act m with
  | ok a m' => simp [hr] at h
  | error fault' m' =>
    obtain rfl : fault' = fault := by simpa [hr] using h
    exact ⟨m', rfl⟩

lemma not_ofBuiltin_of_enter {setup : Setup} {function : Nat} {m m' : Machine} {fault : Fault}
    (h : enter setup function m = .error fault m') : ¬ fault.OfBuiltin := by
  have he : Ends (enter setup function) m (fun _ _ => True) fun fault _ => ¬ fault.OfBuiltin := by
    rw [enter]
    split
    · exact ends_bind (ends_throw id)
    · split
      case h_2 => exact ends_throw id
      case h_1 entry he =>
        split
        · exact ends_bind (ends_throw id)
        · exact ends_bind (ends_onFrames (fun _ _ _ => trivial) fun _ _ _ => id)
  rw [Ends, h] at he
  exact he

end Exec

def Linked.refusal? (linked : Linked) (function : Nat) : Option Fault :=
  match linked.bound[function]? with
  | some (some b) =>
    if b.domains.contains linked.setup.domain then none
    else some (.unavailable b.name linked.setup.domain b.domains)
  | _ => some (.unbound (linked.setup.image.functionName function))

/-- The fault that the machine itself raises at a moment, apart from what host code makes up. -/
def Moment.raises? (linked : Linked) : Moment → Option Fault
  | .asked op m => (Call.target? "" m op).bind fun (function, _) =>
    Exec.fault? (Exec.enter linked.setup function) (m.mapContext Context.beginCall)
  | .due m =>
    if m.context.instructions < linked.setup.settings.maxInstructions ∧
        linked.setup.image.parts.statements.size ≤ m.context.statement then
      some (.statementOutOfRange m.context.statement)
    else none
  | .dispatched st m =>
    match Exec.dispatch linked.setup st m with
    | .error fault _ => some fault
    | .ok (.builtin function _) _ => linked.refusal? function
    | .ok .. => none
  | .pushed .. | .hosted .. | .ended .. => none

namespace Linked

variable {linked : Linked} {function : Nat} {b : Builtin}

lemma refusal?_of_bound (hb : linked.bound[function]? = some (some b)) : linked.refusal? function =
    if b.domains.contains linked.setup.domain then none
    else some (.unavailable b.name linked.setup.domain b.domains) := by
  simp only [refusal?, hb]

lemma refusal?_of_unbound (hb : linked.bound[function]?.join = none) :
    linked.refusal? function = some (.unbound (linked.setup.image.functionName function)) := by
  rw [refusal?]
  cases hf : linked.bound[function]? with
  | none => rfl
  | some place =>
    cases place with
    | none => rfl
    | some b => simp [hf] at hb

end Linked

def RuntimeError.Within (P : Fault → Prop) (err : Option RuntimeError) : Prop :=
  ∀ e, err = some (.execution e) → P e.fault

lemma RuntimeError.Within.or {P : Fault → Prop} {a b : Option RuntimeError} (ha : Within P a)
    (hb : Within P b) : Within P (a.or b) := by
  cases a with
  | none => rwa [Option.none_or]
  | some err => exact ha

def Call.Genuine (P : Fault → Prop) (r : Except VmError Unit) : Prop :=
  RuntimeError.Within P (fault? r)

def HostOp.Genuine (P : Fault → Prop) : (op : HostOp) → op.Answer → Prop
  | .call _, a => Call.Genuine P a
  | .execute .., a => Call.Genuine P a
  | .look, _ | .memory _, _ | .resetProfile, _ | .reset, _ | .note _, _ => True

/-- Code of the host that makes up no faults outside `P`: it ends with one only if one of its calls
did. -/
def Host.HonestFor (P : Fault → Prop) : Host (Except VmError Unit) → Prop
  | .done r => Call.Genuine P r
  | .ask op next => ∀ a, op.Genuine P a → HonestFor P (next a)

/-- Code of the host that makes up no faults of calls of builtins: whichever of them its calls may
end with, it ends with no other. -/
def Host.Honest (code : Host (Except VmError Unit)) : Prop :=
  ∀ P, (∀ fault : Fault, ¬ fault.OfBuiltin → P fault) → code.HonestFor P

def Builtin.Honest (b : Builtin) : Prop := ∀ site, (b.run site).Honest

namespace Call

variable {linked : Linked} {P : Fault → Prop} {s s' : Recorded Machine} {h h' : History}
  {r : Except VmError Unit}

lemma genuine_located {fault : Fault} (hP : P fault) (setup : Setup) (caller : String)
    (m : Machine) : Genuine P (.error (located setup caller fault m)) := by
  obtain ⟨e, rfl, he⟩ := located_eq setup caller fault m
  rw [he]
  rintro e' ⟨⟩
  exact hP

lemma Genuine.relocate {err : VmError} (hP : ∀ err, P (.access err))
    (hg : Genuine P (.error err)) (setup : Setup) (caller : String) (m : Machine) :
    Genuine P (.error (relocate setup caller err m)) := by
  cases err with
  | access err => exact genuine_located (hP err) setup caller m
  | _ => exact hg

def Upright (P : Fault → Prop) (h : History) : Prop := ∀ r m, Moment.ended r m ∈ h → Genuine P r

lemma Upright.firstFault (hh : Upright P h) : RuntimeError.Within P (History.firstFault h) := by
  intro e hf
  obtain ⟨moment, hm, he⟩ := List.exists_of_findSome?_eq_some hf
  cases moment with
  | ended r m => exact hh r m hm e he
  | _ => cases he

lemma Upright.cons {moment : Moment} (hm : ∀ r m, moment ≠ .ended r m) (hh : Upright P h) :
    Upright P (moment :: h) := by
  intro r m hmem
  rcases List.mem_cons.mp hmem with he | hmem
  · exact absurd he.symm (hm r m)
  · exact hh r m hmem

lemma Upright.append (hh : Upright P h) (hh' : Upright P h') : Upright P (h ++ h') := by
  intro r m hmem
  rcases List.mem_append.mp hmem with hmem | hmem
  · exact hh r m hmem
  · exact hh' r m hmem

lemma Upright.ended {m : Machine} (hr : Genuine P r) (hh : Upright P h) :
    Upright P (.ended r m :: h) := by
  intro r' m' hmem
  rcases List.mem_cons.mp hmem with he | hmem
  · cases he
    exact hr
  · exact hh r' m' hmem

lemma upright_nil : Upright P [] := by
  intro r m hmem
  cases hmem

lemma upright_pushes (m m' : Machine) : Upright P (pushes m m') := by
  rw [pushes]
  split_ifs
  · exact .cons (by simp) upright_nil
  · exact upright_nil

lemma Upright.fetched {setup : Setup} {st : Statement} (hh : Upright P h) :
    Upright P (.due s.state :: .dispatched st (ready setup st s).state :: h) :=
  .cons (by simp) (.cons (by simp) hh)

def Tame (linked : Linked) (P : Fault → Prop) (moment : Moment) : Prop :=
  moment.Sound linked.setup ∧ ∀ fault, moment.raises? linked = some fault → P fault

lemma Tame.refusal {st : Statement} {m m' : Machine} {function argc : Nat}
    (ht : Tame linked P (.dispatched st m))
    (hd : Exec.dispatch linked.setup st m = .ok (.builtin function argc) m') :
    ∀ fault, linked.refusal? function = some fault → P fault := by
  intro fault hf
  exact ht.2 fault (by simp only [Moment.raises?, hd, hf])

def GenuineOutcome (linked : Linked) (P : Fault → Prop) :
    Activity → Recorded Machine → History → Except VmError Unit → Prop
  | .call .., s, h, r => s.state.AtHost linked.setup →
    RuntimeError.Within P s.state.context.beginCall.pending → Upright P h ∧ Genuine P r
  | .loop .., s, h, r => 0 < s.state.context.activeCalls →
    RuntimeError.Within P s.state.context.pending → Upright P h ∧ Genuine P r
  | .builtin _ function _, s, h, r => 0 < s.state.context.activeCalls →
    RuntimeError.Within P s.state.context.pending →
    (∀ fault, linked.refusal? function = some fault → P fault) → Upright P h ∧ Genuine P r
  | .host _ code, s, h, r => 0 < s.state.context.activeCalls →
    RuntimeError.Within P s.state.context.pending → code.HonestFor P → Upright P h ∧ Genuine P r

lemma genuine_answer {label : String} {op : HostOp} {a : op.Answer}
    (hp : RuntimeError.Within P s.state.context.pending) (ht : target? label s.state op = none)
    (ha : answer noCalls linked.setup label op s = (a, s')) : op.Genuine P a := by
  cases op with
  | call function =>
    cases hpend : s.state.context.pending with
    | none => simp [target?, hpend] at ht
    | some err =>
      simp only [answer, hpend] at ha
      cases ha
      rw [hpend] at hp
      exact hp
  | execute function caller => cases ht
  | _ => trivial

lemma genuine_raisePending {r' : Except VmError Unit}
    (hp : RuntimeError.Within P s.state.context.pending) (hg : Genuine P r)
    (hr : settle (raisePending r) s = (r', s')) : Genuine P r' := by
  rcases raisePending_cases hr with ⟨err, hpend, rfl, -⟩ | ⟨-, rfl, -⟩
  · rw [hpend] at hp
    exact hp
  · exact hg

lemma genuine_nested (hc : linked.setup.Checked) {op : HostOp} {function : Nat}
    {caller label : String}
    {next : Except VmError Unit → Host (Except VmError Unit)} {r' : Except VmError Unit}
    (hm : ∀ moment ∈ .asked op s.state :: (h ++ .ended r s'.state :: h'), Tame linked P moment)
    (hcall : Runs linked (.call function caller) s h r s')
    (ihc : (∀ moment ∈ h, Tame linked P moment) →
      GenuineOutcome linked P (.call function caller) s h r)
    (ih : (∀ moment ∈ h', Tame linked P moment) →
      GenuineOutcome linked P (.host label (next r)) s' h' r')
    (hpos : 0 < s.state.context.activeCalls)
    (hp : RuntimeError.Within P s.state.context.pending)
    (hnext : ∀ r, Genuine P r → (next r).HonestFor P) :
    Upright P (.asked op s.state :: (h ++ .ended r s'.state :: h')) ∧ Genuine P r' := by
  simp only [List.forall_mem_cons, List.forall_mem_append] at hm
  obtain ⟨⟨hs, -⟩, hm₁, -, hm₂⟩ := hm
  have hn : Neutral linked.setup s h s' := hcall.outcome hc hs
  have hpending := hcall.faults hc hn.moments hpos hs
  have hbegin : RuntimeError.Within P s.state.context.beginCall.pending := by
    rwa [Context.beginCall_eq _ hpos]
  obtain ⟨hh, hr⟩ := ihc hm₁ hs hbegin
  have hp' : RuntimeError.Within P s'.state.context.pending := by
    rw [hpending]
    exact hp.or (hh.firstFault.or hr)
  obtain ⟨hh', hr'⟩ := ih hm₂ (hn.stack.activeCalls ▸ hpos) hp' (hnext r hr)
  exact ⟨.cons (by simp) (.append hh (.ended hr hh')), hr'⟩

theorem Runs.genuine (hc : linked.setup.Checked) (hP : ∀ fault, ¬ fault.OfBuiltin → P fault)
    (hhost : ∀ (function : Nat) (b : Builtin), linked.bound[function]? = some (some b) → b.Honest)
    {act : Activity} (hr : Runs linked act s h r s') (hm : ∀ moment ∈ h, Tame linked P moment) :
    GenuineOutcome linked P act s h r := by
  induction hr with
  | @refused function caller s fault m he =>
    intro hs hp
    exact ⟨upright_nil, genuine_located (hP fault (Exec.not_ofBuiltin_of_enter he)) _ _ _⟩
  | @entered function caller s s' m h r he hl ih =>
    intro hs hp
    obtain ⟨entry, globals, -, rfl, hin⟩ := enter_ok hc hs he
    obtain ⟨hh, hr⟩ := ih (List.forall_mem_cons.mp hm).2 hin.running hp
    exact ⟨.cons (by simp) hh, hr⟩
  | runaway hi => exact fun _ _ => ⟨.cons (by simp) upright_nil, by rintro e ⟨⟩⟩
  | fellOff hi hs =>
    exact fun _ _ => ⟨.cons (by simp) upright_nil, genuine_located (hP _ id) _ _ _⟩
  | @faulted caller exitDepth s st fault m hf hd =>
    intro hpos hp
    have hsound := (hm (.dispatched st (ready linked.setup st s).state) (by simp)).1
    have hdata := (harmless_of_error hc hsound hd).2
    exact ⟨.fetched upright_nil, genuine_located (hP fault hdata.not_ofBuiltin) _ _ _⟩
  | @advanced caller exitDepth s s' st m h r hf hd hl ih =>
    intro hpos hp
    have he := (effect_of_ok hc (hm (.dispatched st _) (by simp)).1 hd).sameCall
    rw [← ready_activeCalls linked.setup st, ← he.activeCalls] at hpos
    rw [← ready_pending linked.setup st, ← he.pending] at hp
    obtain ⟨hh, hr⟩ := ih (fun moment hmem => hm _ (by simp [hmem])) hpos hp
    exact ⟨.fetched (.append (upright_pushes _ _) hh), hr⟩
  | exited hf hd hx => exact fun _ _ => ⟨.fetched upright_nil, by rintro e ⟨⟩⟩
  | @resumed caller exitDepth s s' st m h r hf hd hx hl ih =>
    intro hpos hp
    have he := (effect_of_ok hc (hm (.dispatched st _) (by simp)).1 hd).sameCall
    rw [← ready_activeCalls linked.setup st, ← he.activeCalls] at hpos
    rw [← ready_pending linked.setup st, ← he.pending] at hp
    obtain ⟨hh, hr⟩ := ih (fun moment hmem => hm _ (by simp [hmem])) hpos hp
    exact ⟨.fetched hh, hr⟩
  | @builtinFailed caller exitDepth s s' st m function argc h err hf hd hb ih =>
    intro hpos hp
    have ht := hm (.dispatched st (ready linked.setup st s).state) (by simp)
    obtain rfl := builtin_eq (effect_of_ok hc ht.1 hd)
    rw [← ready_activeCalls linked.setup st] at hpos
    rw [← ready_pending linked.setup st] at hp
    obtain ⟨hh, hr⟩ := ih (fun moment hmem => hm _ (by simp [hmem])) hpos hp (ht.refusal hd)
    exact ⟨.fetched hh, hr.relocate (fun _ => hP _ id) _ _ _⟩
  | @builtinReturned caller exitDepth s s' s'' st m function argc h h' r hf hd hb hl ihb ih =>
    intro hpos hp
    have ht := hm (.dispatched st (ready linked.setup st s).state) (by simp)
    obtain rfl := builtin_eq (effect_of_ok hc ht.1 hd)
    have hat : (ready linked.setup st s).state.AtHost linked.setup :=
      ⟨ht.1.1, fun _ => fetches_lt hf⟩
    have hn : Neutral linked.setup _ _ _ := hb.outcome hc hat
    rw [← ready_activeCalls linked.setup st] at hpos
    rw [← ready_pending linked.setup st] at hp
    -- A builtin that returns has raised nothing, so that what is pending was pending before.
    have hkept := (hb.faults hc hn.moments hpos).of_ok.2
    obtain ⟨hh, -⟩ := ihb (fun moment hmem => hm _ (by simp [hmem])) hpos hp (ht.refusal hd)
    obtain ⟨hh', hr⟩ := ih (fun moment hmem => hm _ (by simp [hmem]))
      (hn.stack.activeCalls ▸ hpos) (hkept ▸ hp)
    exact ⟨.fetched (.append hh hh'), hr⟩
  | unbound hb =>
    exact fun _ _ hrefusal => ⟨upright_nil,
      genuine_located (hrefusal _ (Linked.refusal?_of_unbound hb)) _ _ _⟩
  | @unavailable caller function argc s b hb hd =>
    intro hpos hp hrefusal
    refine ⟨upright_nil, genuine_located (hrefusal _ ?_) _ _ _⟩
    rw [Linked.refusal?_of_bound hb, if_neg (by simp [hd])]
  | @hosted caller function argc s s' s'' b h r r' hb hd hh hr ih =>
    intro hpos hp hrefusal
    -- The builtin ends with what is pending by then, if anything is, whatever its code ends with.
    have hm := (List.forall_mem_cons.mp hm).2
    have hpending : s'.state.context.pending = _ :=
      hh.faults hc (fun moment hmem => (hm moment hmem).1) hpos
    obtain ⟨hup, hg⟩ := ih hm hpos hp (hhost function b hb _ P hP)
    refine ⟨.cons (by simp) hup, genuine_raisePending ?_ hg hr⟩
    rw [hpending]
    exact .or hp hup.firstFault
  | done => exact fun _ _ hcode => ⟨upright_nil, hcode⟩
  | @answered label op next s s' s'' a h r ht ha hh ih =>
    intro hpos hp hcode
    obtain ⟨hs, hm⟩ := List.forall_mem_cons.mp hm
    obtain ⟨hn, hkept⟩ := answer_neutral hs.1 ht ha
    obtain ⟨hup, hg⟩ := ih hm (hn.stack.activeCalls ▸ hpos) (hkept ▸ hp)
      (hcode a (genuine_answer hp ht ha))
    exact ⟨.cons (by simp) hup, hg⟩
  | called hpend hcall hh ihc ih => exact genuine_nested hc hm hcall ihc ih
  | executed hcall hh ihc ih => exact genuine_nested hc hm hcall ihc ih

lemma session_upright (hc : linked.setup.Checked) (hP : ∀ fault, ¬ fault.OfBuiltin → P fault)
    (hhost : ∀ (function : Nat) (b : Builtin), linked.bound[function]? = some (some b) → b.Honest)
    {α : Type} (label : String) (code : Host α) (hs : s.state.AtHost linked.setup)
    (hidle : s.state.context.activeCalls = 0)
    (hm : ∀ moment ∈ hostHistory (execute linked) (history linked) linked.setup label code s,
      Tame linked P moment) :
    Upright P (hostHistory (execute linked) (history linked) linked.setup label code s) := by
  induction code generalizing s with
  | done a => exact upright_nil
  | ask op next ih =>
    rw [hostHistory] at hm ⊢
    cases ht : target? label s.state op with
    | none =>
      have ha : answer (execute linked) linked.setup label op s =
          answer noCalls linked.setup label op s := answer_eq_noCalls _ _ ht
      have hn := (answer_neutral hs ht rfl).1
      simp only [ht, ha, List.nil_append, List.forall_mem_cons] at hm ⊢
      exact .cons (by simp) (ih _ hn.atHost (hn.stack.activeCalls.trans hidle) hm.2)
    | some target =>
      have hrun := execute_runs hc hs target.1 target.2
      have hn : Neutral linked.setup s _ _ := hrun.outcome hc hs
      simp only [ht, answer_of_target ht, List.append_assoc, List.singleton_append,
        List.forall_mem_cons, List.forall_mem_append] at hm ⊢
      obtain ⟨-, hm₁, -, hm₂⟩ := hm
      -- An outermost call forgets what an earlier one has left pending.
      have hbegin : RuntimeError.Within P s.state.context.beginCall.pending := by
        rw [beginCall_pending hidle]
        rintro e ⟨⟩
      obtain ⟨hh, hr⟩ := hrun.genuine hc hP hhost hm₁ hs hbegin
      exact .cons (by simp) (.append hh (.ended hr
        (ih _ hn.atHost (hn.stack.activeCalls.trans hidle) hm₂)))

end Call

end GameVm
