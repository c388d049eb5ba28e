import GameVm.Proofs.Neutrality

/-! Calls and their histories are runs, whatever the budget, as long as the limit bounds it. -/

namespace GameVm.Call

variable {linked : Linked} {fuel : Nat}

/-- The budget covers what the limit leaves. -/
def Enough (linked : Linked) (fuel : Nat) (s : Recorded Machine) : Prop :=
  linked.setup.settings.maxInstructions ≤ fuel + s.state.context.instructions

/-- The functions run the activity, with its history. -/
def Computes (linked : Linked) (act : Activity) (s : Recorded Machine) (run : Call Unit)
    (history : Recorded Machine → History) : Prop :=
  Runs linked act s (history s) (settle run s).1 (settle run s).2

section Host

variable {reenter : Nat → String → Call Unit}
  {nested : Nat → String → Recorded Machine → History}

lemma answer_eq_noCalls (reenter : Nat → String → Call Unit) (setup : Setup) {label : String}
    {op : HostOp} {s : Recorded Machine} (ht : target? label s.state op = none) :
    answer reenter setup label op s = answer noCalls setup label op s := by
  cases op with
  | call function =>
    cases hp : s.state.context.pending with
    | none => simp [target?, hp] at ht
    | some err => simp only [answer, hp]
  | execute function caller => cases ht
  | look => rfl
  | memory op => rfl
  | resetProfile => rfl
  | reset => rfl
  | note text => rfl

lemma target?_eq_some {label : String} {m : Machine} {op : HostOp} {function : Nat}
    {caller : String} (ht : target? label m op = some (function, caller)) :
    (op = .call function ∧ caller = label ∧ m.context.pending = none) ∨
      op = .execute function caller := by
  cases op with
  | call callee =>
    cases hp : m.context.pending with
    | none =>
      obtain ⟨rfl, rfl⟩ : callee = function ∧ label = caller := by simpa [target?, hp] using ht
      exact .inl ⟨rfl, rfl, rfl⟩
    | some err => simp [target?, hp] at ht
  | execute callee name =>
    obtain ⟨rfl, rfl⟩ : callee = function ∧ name = caller := by simpa [target?] using ht
    exact .inr rfl
  | look => cases ht
  | memory op => cases ht
  | resetProfile => cases ht
  | reset => cases ht
  | note text => cases ht

lemma host_runs (hc : linked.setup.Checked)
    (hcall : ∀ function caller s, s.state.AtHost linked.setup → 0 < s.state.context.activeCalls →
      Enough linked fuel s →
      Computes linked (.call function caller) s (reenter function caller) (nested function caller))
    (label : String) (code : Host (Except VmError Unit)) (s : Recorded Machine)
    (hs : s.state.AtHost linked.setup) (hpos : 0 < s.state.context.activeCalls)
    (hf : Enough linked fuel s) :
    Runs linked (.host label code) s (hostHistory reenter nested linked.setup label code s)
      (host reenter linked.setup label code s).1 (host reenter linked.setup label code s).2 := by
  induction code generalizing s with
  | done r => exact .done
  | ask op next ih =>
    -- What the answer leaves is a machine of the same kind, with no fewer statements counted.
    have hnext {h : History} {s' : Recorded Machine} (hn : Neutral linked.setup s h s')
        (a : op.Answer) := ih a s' hn.atHost (hn.stack.activeCalls ▸ hpos)
      (le_trans hf (Nat.add_le_add_left (hn.counted hpos) fuel))
    cases ht : target? label s.state op with
    | none =>
      have ha := answer_eq_noCalls reenter linked.setup ht
      have hn := (answer_neutral hs ht rfl).1
      simp only [hostHistory, host, ht, ha]
      exact .answered ht rfl (hnext hn _)
    | some target =>
      obtain ⟨function, caller⟩ := target
      have hrun := hcall function caller s hs hpos hf
      have hn : Neutral linked.setup s _ _ := hrun.outcome hc hs
      rcases target?_eq_some ht with ⟨rfl, rfl, hp⟩ | rfl
      · simp only [hostHistory, host, ht, answer, hp, List.append_assoc, List.singleton_append]
        exact .called hp hrun (hnext hn _)
      · simp only [hostHistory, host, ht, answer, List.append_assoc, List.singleton_append]
        exact .executed hrun (hnext hn _)

lemma builtin_runs (hc : linked.setup.Checked)
    (hcall : ∀ function caller s, s.state.AtHost linked.setup → 0 < s.state.context.activeCalls →
      Enough linked fuel s →
      Computes linked (.call function caller) s (reenter function caller) (nested function caller))
    (caller : String) (function argc : Nat) (s : Recorded Machine)
    (hs : s.state.AtHost linked.setup) (hpos : 0 < s.state.context.activeCalls)
    (hf : Enough linked fuel s) :
    Computes linked (.builtin caller function argc) s
      (builtin reenter linked caller function argc)
      (builtinHistory reenter nested linked function argc) := by
  rw [Computes]
  cases hb : linked.bound[function]? with
  | none =>
    simp only [builtinHistory, settle, builtin, hb]
    exact .unbound (by simp [hb])
  | some bound =>
    cases bound with
    | none =>
      simp only [builtinHistory, settle, builtin, hb]
      exact .unbound (by simp [hb])
    | some b =>
      cases hd : b.domains.contains linked.setup.domain with
      | false =>
        simp only [builtinHistory, settle, builtin, hb, hd]
        exact .unavailable hb hd
      | true =>
        have hst : (started function s).state.AtHost linked.setup :=
          (Neutral.started hs function).atHost
        have hrun := host_runs hc hcall (linked.setup.image.functionName function)
          (b.run ⟨linked.setup, function, argc⟩) (started function s) hst hpos hf
        simp only [builtinHistory, hb, hd]
        refine .hosted hb hd hrun ?_
        simp only [settle, builtin, hb, hd, if_true]
        rfl

end Host

section Attempt

variable (setup : Setup) (body : String → Nat → Call Unit) (function : Nat) (caller : String)

def attempt : Call Unit := fun s =>
  match ofExec setup caller (Exec.enter setup function) (mapContext Context.beginCall s) with
  | .ok _ s' => body caller s.state.context.depth s'
  | .error err s' => .error err s'

lemma settle_framed (s : Recorded Machine) :
    settle (framed setup body function caller) s =
      ((settle (attempt setup body function caller) s).1,
        conclude setup function caller s.state.context.mark
          (settle (attempt setup body function caller) s).1
          (settle (attempt setup body function caller) s).2) := by
  simp only [settle, framed, attempt]
  cases ofExec setup caller (Exec.enter setup function) (mapContext Context.beginCall s) with
  | error err s' => rfl
  | ok a s' =>
    dsimp only
    cases hb : body caller s.state.context.depth s' with
    | error err s'' => simp only [Context.mark, hb, conclude]
    | ok a s'' => simp only [Context.mark, hb, conclude]

variable {setup function}

lemma attempt_of_ok {s : Recorded Machine} {m : Machine}
    (he : Exec.enter setup function (mapContext Context.beginCall s).state = .ok () m) :
    attempt setup body function caller s = body caller s.state.context.depth ⟨m, s.journal⟩ := by
  simp only [attempt, ofExec, he]
  rfl

lemma attempt_of_error {s : Recorded Machine} {fault : Fault} {m : Machine}
    (he : Exec.enter setup function (mapContext Context.beginCall s).state = .error fault m) :
    attempt setup body function caller s =
      .error (located setup caller fault m) ⟨m, s.journal⟩ := by
  simp only [attempt, ofExec, he]
  rfl

end Attempt

def LoopsRun (linked : Linked) (fuel : Nat) : Prop :=
  ∀ caller exitDepth base first rest s, base.depth = exitDepth →
    s.state.InCall linked.setup base (first :: rest) → Enough linked fuel s →
    Computes linked (.loop caller exitDepth) s (loop linked fuel caller exitDepth)
      (loopHistory linked fuel caller exitDepth)

lemma LoopsRun.framed (hl : LoopsRun linked fuel) (hc : linked.setup.Checked)
    {s : Recorded Machine} (hs : s.state.AtHost linked.setup)
    (hf : Enough linked fuel (mapContext Context.beginCall s)) (function : Nat) (caller : String) :
    Computes linked (.call function caller) s
      (framed linked.setup (loop linked fuel) function caller)
      (framedHistory linked.setup (loopHistory linked fuel) function caller) := by
  rw [Computes]
  rw [settle_framed]
  rcases Exec.enter_cases hc (inCall_beginCall hs).sound.memory function with
    ⟨fault, he, -⟩ | ⟨entry, globals, hz, hfn, hb, hg, -, he⟩
  · rw [settle, attempt_of_error _ _ he]
    simp only [framedHistory, ofExec, he]
    exact .refused he
  · have hrun := hl caller _ _ _ _ ⟨_, s.journal⟩ (Context.beginCall_depth _)
      (entered_inCall hc hs hz hfn hb hg) hf
    have hcall := Runs.entered he hrun
    rw [settle, attempt_of_ok _ _ he]
    simp only [framedHistory, ofExec, he]
    exact hcall

lemma LoopsRun.nested (hl : LoopsRun linked fuel) (hc : linked.setup.Checked) (function : Nat)
    (caller : String) (s : Recorded Machine) (hs : s.state.AtHost linked.setup)
    (hpos : 0 < s.state.context.activeCalls) (hf : Enough linked fuel s) :
    Computes linked (.call function caller) s
      (Call.framed linked.setup (loop linked fuel) function caller)
      (framedHistory linked.setup (loopHistory linked fuel) function caller) := by
  refine hl.framed hc hs ?_ function caller
  rw [Enough, mapContext_context, Context.beginCall_eq _ hpos]
  exact hf

section Loop

variable (caller : String) (exitDepth : Nat) {s : Recorded Machine}

lemma loop_runaway
    (hi : linked.setup.settings.maxInstructions ≤ s.state.context.instructions) :
    Computes linked (.loop caller exitDepth) s (loop linked fuel caller exitDepth)
      (loopHistory linked fuel caller exitDepth) := by
  have hlt : linked.setup.settings.maxInstructions < s.state.context.instructions + 1 := by omega
  have hloop : loop linked fuel caller exitDepth s = .error (runaway linked.setup
      s.state.context.currentFunction s.state.context.statement) (mapContext Context.tick s) := by
    rw [loop.eq_def]
    exact if_pos hlt
  rw [Computes, settle, hloop, loopHistory.eq_def, if_pos hlt]
  exact .runaway hi

lemma loop_fellOff
    (hi : s.state.context.instructions < linked.setup.settings.maxInstructions)
    (hs : linked.setup.image.parts.statements[s.state.context.statement]? = none) :
    Computes linked (.loop caller exitDepth) s (loop linked (fuel + 1) caller exitDepth)
      (loopHistory linked (fuel + 1) caller exitDepth) := by
  have hlt : ¬ linked.setup.settings.maxInstructions < s.state.context.instructions + 1 := by omega
  rw [Computes, settle, loop, loopHistory, if_neg hlt, if_neg (by exact hlt)]
  simp only [hs]
  exact .fellOff hi hs

lemma loop_fetches {st : Statement} (hf : Fetches linked s st) :
    loop linked (fuel + 1) caller exitDepth s =
      match ofExec linked.setup caller (Exec.dispatch linked.setup st)
        (ready linked.setup st s) with
      | .error err s => .error err s
      | .ok .running s => loop linked fuel caller exitDepth s
      | .ok .returned s =>
        if s.state.context.depth ≤ exitDepth then .ok () s
        else loop linked fuel caller exitDepth
          (mapContext (fun c => c.setStatement (c.statement + 1)) s)
      | .ok (.builtin function argc) s' =>
        match builtin (framed linked.setup (loop linked fuel)) linked caller function argc s' with
        | .error err s => .error (relocate linked.setup caller err s.state) s
        | .ok _ s'' => loop linked fuel caller exitDepth
          (mapContext (·.setStatement (s.state.context.statement + 1)) s'') := by
  have hlt : ¬ linked.setup.settings.maxInstructions < s.state.context.instructions + 1 := by
    have := hf.1
    omega
  rw [loop, if_neg (by exact hlt)]
  simp only [hf.2]
  rfl

lemma loopHistory_fetches {st : Statement} (hf : Fetches linked s st) :
    loopHistory linked (fuel + 1) caller exitDepth s =
      .due s.state :: .dispatched st (ready linked.setup st s).state ::
        match ofExec linked.setup caller (Exec.dispatch linked.setup st)
          (ready linked.setup st s) with
        | .error .. => []
        | .ok .running s' =>
          pushes (ready linked.setup st s).state s'.state ++
            loopHistory linked fuel caller exitDepth s'
        | .ok .returned s' =>
          if s'.state.context.depth ≤ exitDepth then []
          else loopHistory linked fuel caller exitDepth
            (mapContext (fun c => c.setStatement (c.statement + 1)) s')
        | .ok (.builtin function argc) s' =>
          builtinHistory (framed linked.setup (loop linked fuel))
            (framedHistory linked.setup (loopHistory linked fuel)) linked function argc s' ++
          match builtin (framed linked.setup (loop linked fuel)) linked caller function argc s' with
          | .error .. => []
          | .ok _ s'' => loopHistory linked fuel caller exitDepth
            (mapContext (·.setStatement (s.state.context.statement + 1)) s'') := by
  have hlt : ¬ linked.setup.settings.maxInstructions < s.state.context.instructions + 1 := by
    have := hf.1
    omega
  rw [loopHistory, if_neg hlt]
  split
  case h_1 hnone => cases hnone.symm.trans hf.2
  case h_2 st' hsome =>
    obtain rfl : st = st' := by simpa using hf.2.symm.trans hsome
    rfl

end Loop

lemma LoopsRun.builtin (hl : LoopsRun linked fuel) (hc : linked.setup.Checked) {base : Context}
    {first : Push} {rest : List Push} {s : Recorded Machine} {st : Statement}
    {function argc : Nat} {m : Machine} (hs : s.state.InCall linked.setup base (first :: rest))
    (hf : Fetches linked s st) (he : Enough linked fuel (ready linked.setup st s))
    (hd : Exec.dispatch linked.setup st (ready linked.setup st s).state =
      .ok (.builtin function argc) m) (caller : String) :
    Computes linked (.loop caller base.depth) s (loop linked (fuel + 1) caller base.depth)
      (loopHistory linked (fuel + 1) caller base.depth) := by
  obtain rfl := builtin_eq (effect_of_ok hc (dispatched_sound hs hf) hd)
  have hr := ready_inCall hs st
  have hat : (ready linked.setup st s).state.AtHost linked.setup :=
    ⟨hr.sound, fun _ => fetches_lt hf⟩
  have hb := builtin_runs hc (hl.nested hc) caller function argc (ready linked.setup st s) hat
    hr.running he
  have hn : Neutral linked.setup _ _ _ := hb.outcome hc hat
  rw [Computes, settle] at hb ⊢
  rw [settle] at hn
  rw [loop_fetches caller _ hf, loopHistory_fetches caller _ hf]
  simp only [ofExec, hd]
  cases hres : Call.builtin (Call.framed linked.setup (loop linked fuel)) linked caller function
    argc (ready linked.setup st s) with
  | error err s' =>
    rw [hres] at hb
    rw [List.append_nil]
    exact .builtinFailed hf hd hb
  | ok a s' =>
    rw [hres] at hb hn
    have hin := (hr.of_sameStack hn.atHost.toSound hn.stack).setStatement (fetches_lt hf)
    rw [ready_context] at hin
    refine .builtinReturned hf hd hb (hl _ _ base first rest _ rfl hin ?_)
    exact le_trans he (Nat.add_le_add_left (hn.counted hr.running) fuel)

lemma loopsRun (hc : linked.setup.Checked) (fuel : Nat) : LoopsRun linked fuel := by
  induction fuel with
  | zero =>
    intro caller exitDepth base first rest s hbase hs hf
    exact loop_runaway caller exitDepth (by rw [Enough] at hf; omega)
  | succ fuel ih =>
    intro caller exitDepth base first rest s hbase hs hf
    by_cases hi : linked.setup.settings.maxInstructions ≤ s.state.context.instructions
    · exact loop_runaway caller exitDepth hi
    · rw [Nat.not_le] at hi
      cases hst : linked.setup.image.parts.statements[s.state.context.statement]? with
      | none => exact loop_fellOff caller exitDepth hi hst
      | some st =>
        have hfetch : Fetches linked s st := ⟨hi, hst⟩
        have hr := ready_inCall hs st
        cases hd : Exec.dispatch linked.setup st (ready linked.setup st s).state with
        | error fault m =>
          rw [Computes, settle]
          rw [loop_fetches caller _ hfetch, loopHistory_fetches caller _ hfetch]
          simp only [ofExec, hd]
          exact .faulted hfetch hd
        | ok flow m =>
          have he := effect_of_ok hc (dispatched_sound hs hfetch) hd
          have hready : Enough linked fuel (ready linked.setup st s) := by
            rw [Enough] at hf ⊢
            simp only [ready_context, Context.tick]
            omega
          have hm : Enough linked fuel ⟨m, (ready linked.setup st s).journal⟩ := by
            rw [Enough] at hready ⊢
            rw [he.sameCall.instructions]
            exact hready
          cases flow with
          | builtin function argc =>
            subst hbase
            exact ih.builtin hc hs hfetch hready hd caller
          | running =>
            rw [Computes, settle]
            rw [loop_fetches caller _ hfetch, loopHistory_fetches caller _ hfetch]
            simp only [ofExec, hd]
            obtain ⟨more, hin, -⟩ := running_inCall hc hr (by simp) (fetches_lt hfetch) he
            exact .advanced hfetch hd (ih _ _ base first (rest ++ more) _ hbase hin hm)
          | returned =>
            rw [Computes, settle]
            rw [loop_fetches caller _ hfetch, loopHistory_fetches caller _ hfetch]
            simp only [ofExec, hd]
            split_ifs with hx
            · exact .exited hfetch hd hx
            · rw [Nat.not_le] at hx
              obtain ⟨rest', -, -, hin⟩ := resumed_inCall hr he (hbase ▸ hx)
              exact .resumed hfetch hd hx (ih _ _ base first rest' _ hbase hin hm)

theorem execute_runs (hc : linked.setup.Checked) {s : Recorded Machine}
    (hs : s.state.AtHost linked.setup) (function : Nat) (caller : String) :
    Computes linked (.call function caller) s (execute linked function caller)
      (history linked function caller) :=
  (loopsRun hc _).framed hc hs (Nat.le_add_right _ _) function caller

end GameVm.Call
