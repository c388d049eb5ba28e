import GameVm.Proofs.Reachable

/-! Properties of the entity records, the strings and the number of counters: what no request and no
statement ends holds throughout a session. -/

namespace GameVm

structure Machine.SameStores (a b : Machine) : Prop where
  entities : a.memory.entities = b.memory.entities
  strings : a.memory.strings = b.memory.strings
  counters : a.profile.size = b.profile.size

namespace Exec

variable {α : Type} {m : Machine} {post : α → Machine → Prop} {setup : Setup}

lemma ends_onFrames {fail : Fault → Machine → Prop} {act : Framing α}
    (h : ∀ a context globals, post a ⟨{ m.memory with globals }, context, m.profile⟩)
    (hf : ∀ err context globals,
      fail (.frame err) ⟨{ m.memory with globals }, context, m.profile⟩) :
    Ends (onFrames act) m post fail := by
  rw [Ends, onFrames]
  cases act (m.context, m.memory.globals) with
  | ok a s => exact h a s.1 s.2
  | error err s => exact hf _ s.1 s.2

lemma ends_enter_sameStores (function : Nat) :
    Ends (enter setup function) m (fun _ m' => m'.SameStores m) fun _ m' => m'.SameStores m := by
  rw [enter]
  split
  · exact ends_bind (ends_throw ⟨rfl, rfl, rfl⟩)
  · split
    case h_2 => exact ends_throw ⟨rfl, rfl, rfl⟩
    case h_1 entry he =>
      split
      · exact ends_bind (ends_throw ⟨rfl, rfl, rfl⟩)
      · apply ends_bind
        exact ends_onFrames (fun _ _ _ => ⟨rfl, rfl, Array.size_modify⟩)
          fun _ _ _ => ⟨rfl, rfl, rfl⟩

end Exec

namespace Call

variable {setup : Setup} {s s' : Recorded Machine}

lemma enter_sameStores {function : Nat} {m : Machine} :
    (∀ m', Exec.enter setup function m = .ok () m' → m'.SameStores m) ∧
    ∀ fault m', Exec.enter setup function m = .error fault m' → m'.SameStores m := by
  have he : Exec.Ends (Exec.enter setup function) m _ _ := Exec.ends_enter_sameStores function
  rw [Exec.Ends] at he
  constructor
  · intro m' hr
    rw [hr] at he
    exact he
  · intro fault m' hr
    rw [hr] at he
    exact he

lemma conclude_sameStores (setup : Setup) (function : Nat) (caller : String) (mark : CallMark)
    (r : Except VmError Unit) (s : Recorded Machine) :
    (conclude setup function caller mark r s).state.SameStores s.state := by
  cases r with
  | ok _ => exact ⟨rfl, rfl, rfl⟩
  | error err =>
    simp only [conclude, framed.fail]
    split_ifs <;> exact ⟨rfl, rfl, rfl⟩

lemma raisePending_sameStores {r r' : Except VmError Unit}
    (h : settle (raisePending r) s = (r', s')) : s'.state.SameStores s.state := by
  rcases raisePending_cases h with ⟨err, -, -, rfl⟩ | ⟨-, -, rfl⟩ <;> exact ⟨rfl, rfl, rfl⟩

lemma ready_sameStores (setup : Setup) (st : Statement) (s : Recorded Machine) :
    (ready setup st s).state.SameStores s.state := by
  have hp : (ready setup st s).state.profile.size = s.state.profile.size := by
    rw [ready, observe]
    split_ifs <;> exact Array.size_modify
  exact ⟨by rw [ready_memory], by rw [ready_memory], hp⟩

lemma charged_sameStores (s : Recorded Machine) : (charged s).state.SameStores s.state :=
  ⟨rfl, rfl, Array.size_modify⟩

lemma started_sameStores (function : Nat) (s : Recorded Machine) :
    (started function s).state.SameStores s.state :=
  ⟨rfl, rfl, Array.size_modify.trans Array.size_modify⟩

/-- A property that the request or the statement of a moment does not end. -/
def Maintains (setup : Setup) (P : Machine → Prop) : Moment → Prop
  | .asked op m => P m → ∀ label journal, target? label m op = none →
    P (answer noCalls setup label op ⟨m, journal⟩).2.state
  | .dispatched st m =>
    P m → Exec.Ends (Exec.dispatch setup st) m (fun _ m' => P m') fun _ m' => P m'
  | .due _ | .pushed .. | .hosted .. | .ended .. => True

def Always (P : Machine → Prop) (h : History) (s : Recorded Machine) : Prop :=
  (∀ moment ∈ h, P moment.machine) ∧ P s.state

def OnStores (P : Machine → Prop) : Prop := ∀ a b : Machine, a.SameStores b → P b → P a

variable {P : Machine → Prop} {h h' : History}

lemma OnStores.mapContext (hP : OnStores P) {m : Machine} (hm : P m) (f : Context → Context) :
    P (m.mapContext f) :=
  hP _ m ⟨rfl, rfl, rfl⟩ hm

lemma Always.cons {moment : Moment} (hm : P moment.machine) (ht : Always P h s) :
    Always P (moment :: h) s :=
  ⟨List.forall_mem_cons.mpr ⟨hm, ht.1⟩, ht.2⟩

lemma Always.append (ht : ∀ moment ∈ h, P moment.machine) (ht' : Always P h' s) :
    Always P (h ++ h') s :=
  ⟨List.forall_mem_append.mpr ⟨ht, ht'.1⟩, ht'.2⟩

section Fetched

variable {st : Statement} {m : Machine}

lemma OnStores.ready (hP : OnStores P) (hs : P s.state) (setup : Setup) (st : Statement) :
    P (ready setup st s).state :=
  hP _ _ (ready_sameStores setup st s) hs

lemma Always.fetched (hP : OnStores P) (hs : P s.state) (ht : Always P h s') :
    Always P (.due s.state :: .dispatched st (Call.ready setup st s).state :: h) s' :=
  .cons hs (.cons (hP.ready hs setup st) ht)

lemma Maintains.dispatch_ok (hk : Maintains setup P (.dispatched st m)) (hm : P m) {flow : Flow}
    {m' : Machine} (hd : Exec.dispatch setup st m = .ok flow m') : P m' := by
  have he := hk hm
  rw [Exec.Ends, hd] at he
  exact he

lemma Maintains.dispatch_error (hk : Maintains setup P (.dispatched st m)) (hm : P m)
    {fault : Fault} {m' : Machine} (hd : Exec.dispatch setup st m = .error fault m') : P m' := by
  have he := hk hm
  rw [Exec.Ends, hd] at he
  exact he

lemma maintains_dispatch (hc : setup.Checked) (hm : (Moment.dispatched st m).Sound setup)
    (hy : P m → Exec.Ends (Exec.dispatch setup st) m (fun _ m' => P m') fun _ _ => True) :
    Maintains setup P (.dispatched st m) := by
  intro hP
  have hy := hy hP
  rw [Exec.Ends] at hy ⊢
  cases hd : Exec.dispatch setup st m with
  | ok flow m' =>
    rw [hd] at hy
    exact hy
  | error fault m' =>
    obtain ⟨rfl, -⟩ := harmless_of_error hc hm hd
    exact hP

end Fetched

lemma always_pushes {m m' : Machine} (hm : P m) : ∀ moment ∈ pushes m m', P moment.machine := by
  rw [pushes]
  split_ifs
  · simpa [Moment.machine] using hm
  · simp

lemma Always.nested {op : HostOp} {r : Except VmError Unit} {s₁ s₂ : Recorded Machine}
    (hs : P s.state)
    (hk : ∀ moment ∈ Moment.asked op s.state :: (h ++ .ended r s₁.state :: h'),
      Maintains setup P moment)
    (ihc : (∀ moment ∈ h, Maintains setup P moment) → P s.state → Always P h s₁)
    (ih : (∀ moment ∈ h', Maintains setup P moment) → P s₁.state → Always P h' s₂) :
    Always P (.asked op s.state :: (h ++ .ended r s₁.state :: h')) s₂ := by
  simp only [List.forall_mem_cons, List.forall_mem_append] at hk
  have hc := ihc hk.2.1 hs
  exact .cons hs (.append hc.1 (.cons hc.2 (ih hk.2.2.2 hc.2)))

theorem Runs.always (hP : OnStores P) {linked : Linked} {act : Activity} {r : Except VmError Unit}
    (hr : Runs linked act s h r s') (hk : ∀ moment ∈ h, Maintains linked.setup P moment)
    (hs : P s.state) : Always P h s' := by
  induction hr with
  | @refused function caller s fault m he =>
    have hm : P m := hP _ _ (enter_sameStores.2 _ _ he) (hP.mapContext hs _)
    exact ⟨by simp, hP _ _ (conclude_sameStores ..) hm⟩
  | @entered function caller s s' m h r he hl ih =>
    have hbegun : P (mapContext Context.beginCall s).state := hP.mapContext hs _
    have ht := ih (List.forall_mem_cons.mp hk).2 (hP _ _ (enter_sameStores.1 _ he) hbegun)
    exact .cons hbegun ⟨ht.1, hP _ _ (conclude_sameStores ..) ht.2⟩
  | runaway hi => exact .cons hs ⟨by simp, hP.mapContext hs _⟩
  | fellOff hi hst => exact .cons hs ⟨by simp, hP.mapContext hs _⟩
  | @faulted caller exitDepth s st fault m hf hd =>
    simp only [List.forall_mem_cons] at hk
    exact .fetched hP hs ⟨by simp, Maintains.dispatch_error hk.2.1 (hP.ready hs _ _) hd⟩
  | @advanced caller exitDepth s s' st m h r hf hd hl ih =>
    simp only [List.forall_mem_cons, List.forall_mem_append] at hk
    have hready := hP.ready hs linked.setup st
    have ht := ih hk.2.2.2 (Maintains.dispatch_ok hk.2.1 hready hd)
    exact .fetched hP hs (.append (always_pushes hready) ht)
  | @exited caller exitDepth s st m hf hd hx =>
    simp only [List.forall_mem_cons] at hk
    exact .fetched hP hs ⟨by simp, Maintains.dispatch_ok hk.2.1 (hP.ready hs _ _) hd⟩
  | @resumed caller exitDepth s s' st m h r hf hd hx hl ih =>
    simp only [List.forall_mem_cons] at hk
    have hm : P m := Maintains.dispatch_ok hk.2.1 (hP.ready hs _ _) hd
    exact .fetched hP hs (ih hk.2.2 (hP.mapContext hm fun c => c.setStatement (c.statement + 1)))
  | @builtinFailed caller exitDepth s s' st m function argc h err hf hd hb ih =>
    simp only [List.forall_mem_cons] at hk
    exact .fetched hP hs (ih hk.2.2 (Maintains.dispatch_ok hk.2.1 (hP.ready hs _ _) hd))
  | @builtinReturned caller exitDepth s s' s'' st m function argc h h' r hf hd hb hl ihb ih =>
    simp only [List.forall_mem_cons, List.forall_mem_append] at hk
    have hb := ihb hk.2.2.1 (Maintains.dispatch_ok hk.2.1 (hP.ready hs _ _) hd)
    have hnext := hP.mapContext hb.2 (·.setStatement (s.state.context.statement + 1))
    exact .fetched hP hs (.append hb.1 (ih hk.2.2.2 hnext))
  | unbound hb => exact ⟨by simp, hP _ _ (charged_sameStores _) hs⟩
  | unavailable hb hd => exact ⟨by simp, hP _ _ (charged_sameStores _) hs⟩
  | @hosted caller function argc s s' s'' b h r r' hb hd hh hr ih =>
    have hstarted := hP _ _ (started_sameStores function s) hs
    have ht := ih (List.forall_mem_cons.mp hk).2 hstarted
    exact .cons hstarted ⟨ht.1, hP _ _ (raisePending_sameStores hr) ht.2⟩
  | done => exact ⟨by simp, hs⟩
  | @answered label op next s s' s'' a h r ht ha hh ih =>
    obtain ⟨hop, hk⟩ := List.forall_mem_cons.mp hk
    have ha' := hop hs label s.journal ht
    rw [ha] at ha'
    exact .cons hs (ih hk ha')
  | called hp hc hh ihc ih => exact .nested hs hk ihc ih
  | executed hc hh ihc ih => exact .nested hs hk ihc ih

section Host

variable {reenter : Nat → String → Call Unit} {nested : Nat → String → Recorded Machine → History}

lemma host_always {α : Type}
    (hcall : ∀ function caller s, s.state.AtHost setup →
      Neutral setup s (nested function caller s) (settle (reenter function caller) s).2)
    (halways : ∀ function caller s, s.state.AtHost setup → P s.state →
      (∀ moment ∈ nested function caller s, Maintains setup P moment) →
      Always P (nested function caller s) (settle (reenter function caller) s).2)
    (label : String) (code : Host α) (s : Recorded Machine) (hs : s.state.AtHost setup)
    (hk : ∀ moment ∈ hostHistory reenter nested setup label code s, Maintains setup P moment)
    (hP : P s.state) :
    Always P (hostHistory reenter nested setup label code s)
      (host reenter setup label code s).2 := by
  induction code generalizing s with
  | done a => exact ⟨by simp [hostHistory], hP⟩
  | ask op next ih =>
    cases ht : target? label s.state op with
    | none =>
      have ha := answer_eq_noCalls reenter setup ht
      have hn := (answer_neutral hs ht rfl).1
      simp only [hostHistory, ht, ha, List.nil_append, List.forall_mem_cons] at hk
      simp only [hostHistory, host, ht, ha]
      exact .cons hP (ih _ _ hn.atHost hk.2 (hk.1 hP label s.journal ht))
    | some target =>
      obtain ⟨function, caller⟩ := target
      have hn := hcall function caller s hs
      simp only [hostHistory, ht, answer_of_target ht, List.append_assoc,
        List.singleton_append] at hk
      simp only [hostHistory, host, ht, answer_of_target ht, List.append_assoc,
        List.singleton_append]
      exact .nested hP hk (fun hk' hs' => halways function caller s hs hs' hk')
        fun hk' hs' => ih _ _ hn.atHost hk' hs'

end Host

end Call

namespace Linked

lemma session_always {linked : Linked} (hc : linked.setup.Checked) {m : Machine}
    (hm : m.AtHost linked.setup) {α : Type} (code : Host α) (journal : Journal)
    {P : Machine → Prop} (hP : Call.OnStores P) (hs : P m)
    (hk : ∀ moment ∈ Instance.history ⟨linked, m⟩ code journal,
      moment.Sound linked.setup → Call.Maintains linked.setup P moment) :
    Call.Always P (Instance.history ⟨linked, m⟩ code journal)
      (Call.host (Call.execute linked) linked.setup "host" code ⟨m, journal⟩).2 := by
  have hrun (function : Nat) (caller : String) (s : Recorded Machine)
      (hs : s.state.AtHost linked.setup) := Call.execute_runs hc hs function caller
  have hcall (function : Nat) (caller : String) (s : Recorded Machine)
      (hs : s.state.AtHost linked.setup) :
      Call.Neutral linked.setup s _ _ := (hrun function caller s hs).outcome hc hs
  have hn := session_neutral hc hm code journal
  refine Call.host_always hcall (fun function caller s hs hP' hk => ?_) "host" code _ hm
    (fun moment hmem => hk moment hmem (hn.moments moment hmem)) hs
  exact (hrun function caller s hs).always hP hk hP'

end Linked

end GameVm
