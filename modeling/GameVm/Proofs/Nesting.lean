import GameVm.Proofs.Invariance

/-! Whatever happens inside a call happens while it runs, and host code that it starts is that of a
builtin bound to the function. -/

namespace GameVm

def Moment.hosts (function : Nat) : Moment → Bool
  | .hosted f _ => f = function
  | _ => false

lemma Moment.eq_of_hosts {function : Nat} {moment : Moment} (h : moment.hosts function = true) :
    ∃ m, moment = .hosted function m := by
  cases moment with
  | hosted f m =>
    obtain rfl := of_decide_eq_true h
    exact ⟨m, rfl⟩
  | _ => cases h

/-- A call is running, and host code that is started belongs to a builtin of the domain. -/
structure Moment.Inside (linked : Linked) (moment : Moment) : Prop where
  running : 0 < moment.machine.context.activeCalls
  bound : ∀ function m, moment = .hosted function m →
    ∃ b, linked.bound[function]? = some (some b) ∧ b.domains.contains linked.setup.domain = true

namespace Call

variable {linked : Linked}

lemma inside_of_running {moment : Moment} (h : 0 < moment.machine.context.activeCalls)
    (hne : ∀ function m, moment ≠ .hosted function m) : moment.Inside linked :=
  ⟨h, fun function m he => absurd he (hne function m)⟩

lemma inside_pushes {m m' : Machine} (h : 0 < m.context.activeCalls) :
    ∀ moment ∈ pushes m m', moment.Inside linked := by
  rw [pushes]
  split_ifs
  · exact List.forall_mem_singleton.mpr (inside_of_running h (by simp))
  · simp

lemma inside_fetched {s : Recorded Machine} {st : Statement} {h : History}
    (hpos : 0 < s.state.context.activeCalls) (hh : ∀ moment ∈ h, moment.Inside linked) :
    ∀ moment ∈ .due s.state :: .dispatched st (ready linked.setup st s).state :: h,
      moment.Inside linked := by
  refine List.forall_mem_cons.mpr ⟨inside_of_running hpos (by simp), ?_⟩
  refine List.forall_mem_cons.mpr ⟨inside_of_running ?_ (by simp), hh⟩
  rw [Moment.machine, ready_activeCalls]
  exact hpos

def InsideOutcome (linked : Linked) : Activity → Recorded Machine → History → Prop
  | .call .., s, h => s.state.AtHost linked.setup → ∀ moment ∈ h, moment.Inside linked
  | .loop .., s, h | .builtin .., s, h | .host .., s, h =>
    0 < s.state.context.activeCalls → ∀ moment ∈ h, moment.Inside linked

lemma inside_nested (hc : linked.setup.Checked) {op : HostOp} {function : Nat} {caller : String}
    {s s' : Recorded Machine} {h h' : History} {r : Except VmError Unit}
    (hm : ∀ moment ∈ .asked op s.state :: (h ++ .ended r s'.state :: h'),
      moment.Sound linked.setup)
    (hcall : Runs linked (.call function caller) s h r s')
    (ihc : (∀ moment ∈ h, moment.Sound linked.setup) →
      InsideOutcome linked (.call function caller) s h)
    (ih : (∀ moment ∈ h', moment.Sound linked.setup) → 0 < s'.state.context.activeCalls →
      ∀ moment ∈ h', moment.Inside linked)
    (hpos : 0 < s.state.context.activeCalls) :
    ∀ moment ∈ .asked op s.state :: (h ++ .ended r s'.state :: h'), moment.Inside linked := by
  simp only [List.forall_mem_cons, List.forall_mem_append] at hm ⊢
  obtain ⟨hs, hm₁, -, hm₂⟩ := hm
  have hn : Neutral linked.setup s h s' := hcall.outcome hc hs
  have hpos' : 0 < s'.state.context.activeCalls := hn.stack.activeCalls ▸ hpos
  exact ⟨inside_of_running hpos (by simp), ihc hm₁ hs, inside_of_running hpos' (by simp),
    ih hm₂ hpos'⟩

theorem Runs.inside (hc : linked.setup.Checked) {act : Activity} {s s' : Recorded Machine}
    {h : History} {r : Except VmError Unit} (hr : Runs linked act s h r s')
    (hm : ∀ moment ∈ h, moment.Sound linked.setup) : InsideOutcome linked act s h := by
  induction hr with
  | refused he => exact fun _ => by simp
  | @entered function caller s s' m h r he hl ih =>
    intro hs
    obtain ⟨entry, globals, -, rfl, hin⟩ := enter_ok hc hs he
    refine List.forall_mem_cons.mpr ⟨inside_of_running (inCall_beginCall hs).running (by simp), ?_⟩
    exact ih (List.forall_mem_cons.mp hm).2 hin.running
  | runaway hi =>
    exact fun hpos => List.forall_mem_singleton.mpr (inside_of_running hpos (by simp))
  | fellOff hi hs =>
    exact fun hpos => List.forall_mem_singleton.mpr (inside_of_running hpos (by simp))
  | faulted hf hd => exact fun hpos => inside_fetched hpos (by simp)
  | @advanced caller exitDepth s s' st m h r hf hd hl ih =>
    intro hpos
    have he := (effect_of_ok hc (hm _ (by simp)) hd).sameCall
    have hready : 0 < (ready linked.setup st s).state.context.activeCalls := by
      rw [ready_activeCalls]
      exact hpos
    refine inside_fetched hpos (List.forall_mem_append.mpr ⟨inside_pushes hready, ?_⟩)
    exact ih (fun moment hmem => hm _ (by simp [hmem])) (he.activeCalls ▸ hready)
  | exited hf hd hx => exact fun hpos => inside_fetched hpos (by simp)
  | @resumed caller exitDepth s s' st m h r hf hd hx hl ih =>
    intro hpos
    have he := (effect_of_ok hc (hm _ (by simp)) hd).sameCall
    refine inside_fetched hpos (ih (fun moment hmem => hm _ (by simp [hmem])) ?_)
    rw [← ready_activeCalls linked.setup st] at hpos
    exact he.activeCalls ▸ hpos
  | @builtinFailed caller exitDepth s s' st m function argc h err hf hd hb ih =>
    intro hpos
    obtain rfl := builtin_eq (effect_of_ok hc (hm _ (by simp)) hd)
    refine inside_fetched hpos (ih (fun moment hmem => hm _ (by simp [hmem])) ?_)
    rw [← ready_activeCalls linked.setup st] at hpos
    exact hpos
  | @builtinReturned caller exitDepth s s' s'' st m function argc h h' r hf hd hb hl ihb ih =>
    intro hpos
    have hsound := hm (.dispatched st (ready linked.setup st s).state) (by simp)
    obtain rfl := builtin_eq (effect_of_ok hc hsound hd)
    have hat : (ready linked.setup st s).state.AtHost linked.setup :=
      ⟨hsound.1, fun _ => fetches_lt hf⟩
    have hn : Neutral linked.setup _ _ _ := hb.outcome hc hat
    have hready := hpos
    rw [← ready_activeCalls linked.setup st] at hready
    refine inside_fetched hpos (List.forall_mem_append.mpr ⟨?_, ?_⟩)
    · exact ihb (fun moment hmem => hm _ (by simp [hmem])) hready
    · exact ih (fun moment hmem => hm _ (by simp [hmem])) (hn.stack.activeCalls ▸ hready)
  | unbound hb => exact fun _ => by simp
  | unavailable hb hd => exact fun _ => by simp
  | @hosted caller function argc s s' s'' b h r r' hb hd hh hr ih =>
    intro hpos
    refine List.forall_mem_cons.mpr ⟨⟨hpos, ?_⟩, ih (List.forall_mem_cons.mp hm).2 hpos⟩
    rintro function' m he
    cases he
    exact ⟨b, hb, hd⟩
  | done => exact fun _ => by simp
  | @answered label op next s s' s'' a h r ht ha hh ih =>
    intro hpos
    obtain ⟨hs, hm⟩ := List.forall_mem_cons.mp hm
    have hn := (answer_neutral hs ht ha).1
    refine List.forall_mem_cons.mpr ⟨inside_of_running hpos (by simp), ?_⟩
    exact ih hm (hn.stack.activeCalls ▸ hpos)
  | called hp hcall hh ihc ih => exact inside_nested hc hm hcall ihc ih
  | executed hcall hh ihc ih => exact inside_nested hc hm hcall ihc ih

lemma history_inside (hc : linked.setup.Checked) {s : Recorded Machine}
    (hs : s.state.AtHost linked.setup) (function : Nat) (caller : String) :
    ∀ moment ∈ history linked function caller s, moment.Inside linked := by
  have hrun := execute_runs hc hs function caller
  have hn : Neutral linked.setup _ _ _ := hrun.outcome hc hs
  exact hrun.inside hc hn.moments hs

lemma mem_session (hc : linked.setup.Checked) {α : Type} (label : String) (code : Host α)
    {s : Recorded Machine} (hs : s.state.AtHost linked.setup) {moment : Moment}
    (hm : moment ∈ hostHistory (execute linked) (history linked) linked.setup label code s) :
    (∃ op m, moment = .asked op m) ∨ (∃ r m, moment = .ended r m) ∨
      ∃ function caller s', s'.state.AtHost linked.setup ∧
        moment ∈ history linked function caller s' := by
  induction code generalizing s with
  | done a => cases hm
  | ask op next ih =>
    have hneutral (function : Nat) (caller : String) :
        Neutral linked.setup s (history linked function caller s)
          (settle (execute linked function caller) s).2 :=
      (execute_runs hc hs function caller).outcome hc hs
    rw [hostHistory, List.mem_cons, List.mem_append] at hm
    rcases hm with rfl | hm | hm
    · exact .inl ⟨op, s.state, rfl⟩
    · cases ht : target? label s.state op with
      | none => simp [ht] at hm
      | some target =>
        simp only [ht, List.mem_append, List.mem_singleton] at hm
        rcases hm with hm | rfl
        · exact .inr (.inr ⟨_, _, s, hs, hm⟩)
        · exact .inr (.inl ⟨_, _, rfl⟩)
    · refine ih _ ?_ hm
      cases ht : target? label s.state op with
      | none =>
        rw [answer_eq_noCalls _ _ ht]
        exact (answer_neutral hs ht rfl).1.atHost
      | some target =>
        rw [answer_of_target ht]
        exact (hneutral target.1 target.2).atHost

end Call

end GameVm
