import GameVm.Proofs.PendingFaults

/-! Progress inside a run: how one activity leads to the next, down to the innermost. -/

namespace GameVm

def Host.Leaves {α : Type} (P : α → Prop) : Host α → Prop
  | .done a => P a
  | .ask _ next => ∀ answer, (next answer).Leaves P

namespace Call

/-- An activity comes to another, which carries it on or is a part of it, with what has happened in
between. -/
inductive Proceeds (linked : Linked) :
    Activity → Recorded Machine → History → Activity → Recorded Machine → Prop
  | entered {function : Nat} {caller : String} {s : Recorded Machine} {m : Machine}
      (he : Exec.enter linked.setup function (mapContext Context.beginCall s).state = .ok () m) :
      Proceeds linked (.call function caller) s
        [.pushed function (mapContext Context.beginCall s).state]
        (.loop caller s.state.context.depth) ⟨m, s.journal⟩
  | advanced {caller : String} {exitDepth : Nat} {s : Recorded Machine} {st : Statement}
      {m : Machine} (hf : Fetches linked s st)
      (hd : Exec.dispatch linked.setup st (ready linked.setup st s).state = .ok .running m) :
      Proceeds linked (.loop caller exitDepth) s
        (.due s.state :: .dispatched st (ready linked.setup st s).state ::
          pushes (ready linked.setup st s).state m)
        (.loop caller exitDepth) ⟨m, (ready linked.setup st s).journal⟩
  | resumed {caller : String} {exitDepth : Nat} {s : Recorded Machine} {st : Statement}
      {m : Machine} (hf : Fetches linked s st)
      (hd : Exec.dispatch linked.setup st (ready linked.setup st s).state = .ok .returned m)
      (hx : exitDepth < m.context.depth) :
      Proceeds linked (.loop caller exitDepth) s
        [.due s.state, .dispatched st (ready linked.setup st s).state] (.loop caller exitDepth)
        ⟨m.mapContext fun c => c.setStatement (c.statement + 1), (ready linked.setup st s).journal⟩
  | builtinCalled {caller : String} {exitDepth : Nat} {s : Recorded Machine} {st : Statement}
      {m : Machine} {function argc : Nat} (hf : Fetches linked s st)
      (hd : Exec.dispatch linked.setup st (ready linked.setup st s).state =
        .ok (.builtin function argc) m) :
      Proceeds linked (.loop caller exitDepth) s
        [.due s.state, .dispatched st (ready linked.setup st s).state]
        (.builtin caller function argc) ⟨m, (ready linked.setup st s).journal⟩
  | builtinReturned {caller : String} {exitDepth : Nat} {s s' : Recorded Machine}
      {st : Statement} {m : Machine} {function argc : Nat} {h : History}
      (hf : Fetches linked s st)
      (hd : Exec.dispatch linked.setup st (ready linked.setup st s).state =
        .ok (.builtin function argc) m)
      (hb : Runs linked (.builtin caller function argc) ⟨m, (ready linked.setup st s).journal⟩ h
        (.ok ()) s') :
      Proceeds linked (.loop caller exitDepth) s
        (.due s.state :: .dispatched st (ready linked.setup st s).state :: h)
        (.loop caller exitDepth) (mapContext (·.setStatement (s.state.context.statement + 1)) s')
  | hosted {caller : String} {function argc : Nat} {s : Recorded Machine} {b : Builtin}
      (hb : linked.bound[function]? = some (some b))
      (hd : b.domains.contains linked.setup.domain = true) :
      Proceeds linked (.builtin caller function argc) s
        [.hosted function (started function s).state]
        (.host (linked.setup.image.functionName function) (b.run ⟨linked.setup, function, argc⟩))
        (started function s)
  | answered {label : String} {op : HostOp} {next : op.Answer → Host (Except VmError Unit)}
      {s s' : Recorded Machine} {a : op.Answer} (ht : target? label s.state op = none)
      (ha : answer noCalls linked.setup label op s = (a, s')) :
      Proceeds linked (.host label (.ask op next)) s [.asked op s.state] (.host label (next a)) s'
  | called {label : String} {function : Nat}
      {next : Except VmError Unit → Host (Except VmError Unit)} {s : Recorded Machine}
      (hp : s.state.context.pending = none) :
      Proceeds linked (.host label (.ask (.call function) next)) s [.asked (.call function) s.state]
        (.call function label) s
  | callEnded {label : String} {function : Nat}
      {next : Except VmError Unit → Host (Except VmError Unit)} {s s' : Recorded Machine}
      {h : History} {r : Except VmError Unit} (hp : s.state.context.pending = none)
      (hc : Runs linked (.call function label) s h r s') :
      Proceeds linked (.host label (.ask (.call function) next)) s
        (.asked (.call function) s.state :: (h ++ [.ended r s'.state])) (.host label (next r)) s'
  | executed {label : String} {function : Nat} {caller : String}
      {next : Except VmError Unit → Host (Except VmError Unit)} {s : Recorded Machine} :
      Proceeds linked (.host label (.ask (.execute function caller) next)) s
        [.asked (.execute function caller) s.state] (.call function caller) s
  | executeEnded {label : String} {function : Nat} {caller : String}
      {next : Except VmError Unit → Host (Except VmError Unit)} {s s' : Recorded Machine}
      {h : History} {r : Except VmError Unit}
      (hc : Runs linked (.call function caller) s h r s') :
      Proceeds linked (.host label (.ask (.execute function caller) next)) s
        (.asked (.execute function caller) s.state :: (h ++ [.ended r s'.state]))
        (.host label (next r)) s'

inductive Leads (linked : Linked) (act : Activity) (s : Recorded Machine) :
    History → Activity → Recorded Machine → Prop
  | refl : Leads linked act s [] act s
  | stage {h h' : History} {act' act'' : Activity} {s' s'' : Recorded Machine}
      (hl : Leads linked act s h act' s') (hp : Proceeds linked act' s' h' act'' s'') :
      Leads linked act s (h ++ h') act'' s''

variable {linked : Linked} {act act' act'' : Activity} {s s' s'' : Recorded Machine}
  {h h' : History}

lemma Leads.head (hp : Proceeds linked act s h act' s') (hl : Leads linked act' s' h' act'' s'') :
    Leads linked act s (h ++ h') act'' s'' := by
  induction hl with
  | refl => simpa using Leads.stage .refl hp
  | stage hl hp' ih =>
    rw [← List.append_assoc]
    exact .stage ih hp'

def Activity.Stands (setup : Setup) : Activity → Machine → Prop
  | .call .., m => m.AtHost setup
  | .builtin .., m | .host .., m => m.AtHost setup ∧ 0 < m.context.activeCalls
  | .loop _ exitDepth, m => ∃ base first rest, base.depth = exitDepth ∧
    m.InCall setup base (first :: rest)

lemma stands_builtin {base : Context} {first : Push} {rest : List Push} {st : Statement}
    (hs : s.state.InCall linked.setup base (first :: rest)) (hf : Fetches linked s st) :
    (ready linked.setup st s).state.AtHost linked.setup ∧
      0 < (ready linked.setup st s).state.context.activeCalls :=
  have hr := ready_inCall hs st
  ⟨⟨hr.sound, fun _ => fetches_lt hf⟩, hr.running⟩

lemma Proceeds.stands (hc : linked.setup.Checked) (hp : Proceeds linked act s h act' s')
    (hs : act.Stands linked.setup s.state) : act'.Stands linked.setup s'.state := by
  cases hp with
  | entered he =>
    obtain ⟨entry, globals, -, -, hin⟩ := enter_ok hc hs he
    exact ⟨_, _, _, Context.beginCall_depth _, hin⟩
  | @advanced caller exitDepth _ st m hf hd =>
    obtain ⟨base, first, rest, hbase, hs⟩ := hs
    have he := effect_of_ok hc (dispatched_sound hs hf) hd
    obtain ⟨more, hin, -⟩ := running_inCall hc (ready_inCall hs st) (by simp) (fetches_lt hf) he
    exact ⟨base, first, rest ++ more, hbase, hin⟩
  | @resumed caller exitDepth _ st m hf hd hx =>
    obtain ⟨base, first, rest, hbase, hs⟩ := hs
    have he := effect_of_ok hc (dispatched_sound hs hf) hd
    obtain ⟨rest', p, rfl, hin⟩ := resumed_inCall (ready_inCall hs st) he (hbase ▸ hx)
    exact ⟨base, first, rest', hbase, hin⟩
  | @builtinCalled caller exitDepth _ st m function argc hf hd =>
    obtain ⟨base, first, rest, -, hs⟩ := hs
    obtain rfl := builtin_eq (effect_of_ok hc (dispatched_sound hs hf) hd)
    exact stands_builtin hs hf
  | @builtinReturned caller exitDepth _ s₁ st m function argc h hf hd hb =>
    obtain ⟨base, first, rest, hbase, hs⟩ := hs
    obtain rfl := builtin_eq (effect_of_ok hc (dispatched_sound hs hf) hd)
    have hn : Neutral linked.setup _ _ _ := hb.outcome hc (stands_builtin hs hf).1
    have hin := ((ready_inCall hs st).of_sameStack hn.atHost.toSound hn.stack).setStatement
      (fetches_lt hf)
    rw [ready_context] at hin
    exact ⟨base, first, rest, hbase, hin⟩
  | @hosted caller function argc _ b hb hd => exact ⟨(Neutral.started hs.1 function).atHost, hs.2⟩
  | answered ht ha =>
    have hn := (answer_neutral hs.1 ht ha).1
    exact ⟨hn.atHost, hn.stack.activeCalls ▸ hs.2⟩
  | called hp => exact hs.1
  | executed => exact hs.1
  | callEnded hp hr =>
    have hn : Neutral linked.setup _ _ _ := hr.outcome hc hs.1
    exact ⟨hn.atHost, hn.stack.activeCalls ▸ hs.2⟩
  | executeEnded hr =>
    have hn : Neutral linked.setup _ _ _ := hr.outcome hc hs.1
    exact ⟨hn.atHost, hn.stack.activeCalls ▸ hs.2⟩

lemma Leads.stands (hc : linked.setup.Checked) (hl : Leads linked act s h act' s')
    (hs : act.Stands linked.setup s.state) : act'.Stands linked.setup s'.state := by
  induction hl with
  | refl => exact hs
  | stage _ hp ih => exact hp.stands hc ih

lemma firstFault_nested (op : HostOp) (m m' : Machine) (h : History) (r : Except VmError Unit) :
    History.firstFault (.asked op m :: (h ++ [.ended r m'])) =
      (History.firstFault h).or (fault? r) := by
  rw [History.firstFault_cons_of_none rfl, History.firstFault_append, History.firstFault_ended]
  simp [History.firstFault]

lemma pending_of_quiet {pending pending' : Option RuntimeError} (hq : History.firstFault h = none)
    (hk : pending' = pending) : pending' = pending.or (History.firstFault h) := by
  rw [hq, Option.or_none, hk]

lemma Runs.quiet_of_returned (hc : linked.setup.Checked) {caller : String} {function argc : Nat}
    (hr : Runs linked (.builtin caller function argc) s h (.ok ()) s')
    (hs : s.state.AtHost linked.setup ∧ 0 < s.state.context.activeCalls) :
    History.firstFault h = none ∧ s'.state.context.pending = s.state.context.pending := by
  have hn : Neutral linked.setup s h s' := hr.outcome hc hs.1
  exact (hr.faults hc hn.moments hs.2).of_ok

lemma Proceeds.pending (hc : linked.setup.Checked) (hp : Proceeds linked act s h act' s')
    (hs : act.Stands linked.setup s.state) :
    s'.state.context.pending = s.state.context.pending.or (History.firstFault h) := by
  cases hp with
  | @entered function caller _ m he =>
    obtain ⟨entry, globals, -, rfl, -⟩ := enter_ok hc hs he
    have hbegin : s.state.context.beginCall.pending = s.state.context.pending := by
      by_cases hz : s.state.context.activeCalls = 0
      · rw [beginCall_pending hz, (hs.context.idle hz).2.2.2]
      · rw [Context.beginCall_eq _ (Nat.pos_of_ne_zero hz)]
    exact pending_of_quiet rfl hbegin
  | @advanced caller exitDepth _ st m hf hd =>
    obtain ⟨base, first, rest, -, hs⟩ := hs
    have he := (effect_of_ok hc (dispatched_sound hs hf) hd).sameCall.pending
    exact pending_of_quiet (firstFault_pushes _ m) (he.trans (ready_pending ..))
  | @resumed caller exitDepth _ st m hf hd hx =>
    obtain ⟨base, first, rest, -, hs⟩ := hs
    have he := (effect_of_ok hc (dispatched_sound hs hf) hd).sameCall.pending
    exact pending_of_quiet rfl (he.trans (ready_pending ..))
  | @builtinCalled caller exitDepth _ st m function argc hf hd =>
    obtain ⟨base, first, rest, -, hs⟩ := hs
    have he := (effect_of_ok hc (dispatched_sound hs hf) hd).sameCall.pending
    exact pending_of_quiet rfl (he.trans (ready_pending ..))
  | @builtinReturned caller exitDepth _ s₁ st m function argc h hf hd hb =>
    obtain ⟨base, first, rest, -, hs⟩ := hs
    obtain rfl := builtin_eq (effect_of_ok hc (dispatched_sound hs hf) hd)
    obtain ⟨hfault, hkept⟩ := hb.quiet_of_returned hc (stands_builtin hs hf)
    exact pending_of_quiet hfault (hkept.trans (ready_pending ..))
  | hosted hb hd => exact pending_of_quiet rfl rfl
  | answered ht ha => exact pending_of_quiet rfl (answer_neutral hs.1 ht ha).2
  | called hp => exact pending_of_quiet rfl rfl
  | executed => exact pending_of_quiet rfl rfl
  | callEnded hp hr =>
    have hn : Neutral linked.setup _ _ _ := hr.outcome hc hs.1
    rw [firstFault_nested]
    exact hr.faults hc hn.moments hs.2 hs.1
  | executeEnded hr =>
    have hn : Neutral linked.setup _ _ _ := hr.outcome hc hs.1
    rw [firstFault_nested]
    exact hr.faults hc hn.moments hs.2 hs.1

lemma Leads.pending (hc : linked.setup.Checked) (hl : Leads linked act s h act' s')
    (hs : act.Stands linked.setup s.state) :
    s'.state.context.pending = s.state.context.pending.or (History.firstFault h) := by
  induction hl with
  | refl => simp [History.firstFault]
  | stage hl hp ih =>
    rw [hp.pending hc (hl.stands hc hs), ih, History.firstFault_append, Option.or_assoc]

lemma Runs.leads_done {label : String} {code : Host (Except VmError Unit)}
    {r : Except VmError Unit} (hr : Runs linked (.host label code) s h r s') :
    Leads linked (.host label code) s h (.host label (.done r)) s' := by
  generalize hact : Activity.host label code = act at hr
  induction hr generalizing code with
  | done =>
    cases hact
    exact .refl
  | @answered label' op next s s' s'' a h r ht ha hh ih =>
    cases hact
    exact .head (.answered ht ha) (ih rfl)
  | @called label' function next s s' s'' h h' r r' hp hc hh ihc ih =>
    cases hact
    have hl := Leads.head (.callEnded hp hc) (ih rfl)
    simpa using hl
  | @executed label' function caller next s s' s'' h h' r r' hc hh ihc ih =>
    cases hact
    have hl := Leads.head (.executeEnded hc) (ih rfl)
    simpa using hl
  | _ => cases hact

lemma Leads.leaves {P : Except VmError Unit → Prop} {function : Nat} {caller label : String}
    {code : Host (Except VmError Unit)}
    (hb : ∀ (function : Nat) (b : Builtin) (site : CallSite),
      linked.bound[function]? = some (some b) → Host.Leaves P (b.run site))
    (hl : Leads linked (.call function caller) s h (.host label code) s') : code.Leaves P := by
  generalize hact : Activity.host label code = act at hl
  induction hl generalizing label code with
  | refl => cases hact
  | stage _ hp ih =>
    cases hp with
    | @hosted caller function argc _ b hbound hd =>
      cases hact
      exact hb function b _ hbound
    | @answered label op next _ _ a ht ha =>
      cases hact
      exact ih rfl a
    | @callEnded label function next _ _ h r hp hc =>
      cases hact
      exact ih rfl r
    | @executeEnded label function caller next _ _ h r hc =>
      cases hact
      exact ih rfl r
    | _ => cases hact

end Call

end GameVm
