import GameVm.Proofs.History

/-! Runs as a relation: every activity with its history, its result and the machine it leaves. -/

namespace GameVm.Call

/-- What is carried out: a call, its loop over statements, a builtin, or code of the host. -/
inductive Activity where
  | call (function : Nat) (caller : String)
  | loop (caller : String) (exitDepth : Nat)
  | builtin (caller : String) (function argc : Nat)
  | host (label : String) (code : Host (Except VmError Unit))

def Fetches (linked : Linked) (s : Recorded Machine) (st : Statement) : Prop :=
  s.state.context.instructions < linked.setup.settings.maxInstructions ∧
    linked.setup.image.parts.statements[s.state.context.statement]? = some st

def conclude (setup : Setup) (function : Nat) (caller : String) (mark : CallMark) :
    Except VmError Unit → Recorded Machine → Recorded Machine
  | .ok _, s => mapContext (·.endCall mark.outermost none) s
  | .error err, s => framed.fail setup function caller mark err s

def noCalls : Nat → String → Call Unit := fun _ _ => pure ()

inductive Runs (linked : Linked) :
    Activity → Recorded Machine → History → Except VmError Unit → Recorded Machine → Prop
  | refused {function : Nat} {caller : String} {s : Recorded Machine} {fault : Fault} {m : Machine}
      (he : Exec.enter linked.setup function (mapContext Context.beginCall s).state =
        .error fault m) :
      Runs linked (.call function caller) s [] (.error (located linked.setup caller fault m))
        (conclude linked.setup function caller s.state.context.mark
          (.error (located linked.setup caller fault m)) ⟨m, s.journal⟩)
  | entered {function : Nat} {caller : String} {s s' : Recorded Machine} {m : Machine}
      {h : History} {r : Except VmError Unit}
      (he : Exec.enter linked.setup function (mapContext Context.beginCall s).state = .ok () m)
      (hl : Runs linked (.loop caller s.state.context.depth) ⟨m, s.journal⟩ h r s') :
      Runs linked (.call function caller) s
        (.pushed function (mapContext Context.beginCall s).state :: h) r
        (conclude linked.setup function caller s.state.context.mark r s')
  | runaway {caller : String} {exitDepth : Nat} {s : Recorded Machine}
      (hi : linked.setup.settings.maxInstructions ≤ s.state.context.instructions) :
      Runs linked (.loop caller exitDepth) s [.due s.state]
        (.error (runaway linked.setup s.state.context.currentFunction s.state.context.statement))
        (mapContext Context.tick s)
  | fellOff {caller : String} {exitDepth : Nat} {s : Recorded Machine}
      (hi : s.state.context.instructions < linked.setup.settings.maxInstructions)
      (hs : linked.setup.image.parts.statements[s.state.context.statement]? = none) :
      Runs linked (.loop caller exitDepth) s [.due s.state]
        (.error (located linked.setup caller (.statementOutOfRange s.state.context.statement)
          (mapContext Context.tick s).state))
        (mapContext Context.tick s)
  | faulted {caller : String} {exitDepth : Nat} {s : Recorded Machine} {st : Statement}
      {fault : Fault} {m : Machine} (hf : Fetches linked s st)
      (hd : Exec.dispatch linked.setup st (ready linked.setup st s).state = .error fault m) :
      Runs linked (.loop caller exitDepth) s
        [.due s.state, .dispatched st (ready linked.setup st s).state]
        (.error (located linked.setup caller fault m)) ⟨m, (ready linked.setup st s).journal⟩
  | advanced {caller : String} {exitDepth : Nat} {s s' : Recorded Machine} {st : Statement}
      {m : Machine} {h : History} {r : Except VmError Unit} (hf : Fetches linked s st)
      (hd : Exec.dispatch linked.setup st (ready linked.setup st s).state = .ok .running m)
      (hl : Runs linked (.loop caller exitDepth) ⟨m, (ready linked.setup st s).journal⟩ h r s') :
      Runs linked (.loop caller exitDepth) s
        (.due s.state :: .dispatched st (ready linked.setup st s).state ::
          (pushes (ready linked.setup st s).state m ++ h)) r s'
  | exited {caller : String} {exitDepth : Nat} {s : Recorded Machine} {st : Statement}
      {m : Machine} (hf : Fetches linked s st)
      (hd : Exec.dispatch linked.setup st (ready linked.setup st s).state = .ok .returned m)
      (hx : m.context.depth ≤ exitDepth) :
      Runs linked (.loop caller exitDepth) s
        [.due s.state, .dispatched st (ready linked.setup st s).state] (.ok ())
        ⟨m, (ready linked.setup st s).journal⟩
  | resumed {caller : String} {exitDepth : Nat} {s s' : Recorded Machine} {st : Statement}
      {m : Machine} {h : History} {r : Except VmError Unit} (hf : Fetches linked s st)
      (hd : Exec.dispatch linked.setup st (ready linked.setup st s).state = .ok .returned m)
      (hx : exitDepth < m.context.depth)
      (hl : Runs linked (.loop caller exitDepth)
        ⟨m.mapContext fun c => c.setStatement (c.statement + 1), (ready linked.setup st s).journal⟩
        h r s') :
      Runs linked (.loop caller exitDepth) s
        (.due s.state :: .dispatched st (ready linked.setup st s).state :: h) r s'
  | builtinFailed {caller : String} {exitDepth : Nat} {s s' : Recorded Machine} {st : Statement}
      {m : Machine} {function argc : Nat} {h : History} {err : VmError} (hf : Fetches linked s st)
      (hd : Exec.dispatch linked.setup st (ready linked.setup st s).state =
        .ok (.builtin function argc) m)
      (hb : Runs linked (.builtin caller function argc) ⟨m, (ready linked.setup st s).journal⟩ h
        (.error err) s') :
      Runs linked (.loop caller exitDepth) s
        (.due s.state :: .dispatched st (ready linked.setup st s).state :: h)
        (.error (relocate linked.setup caller err s'.state)) s'
  | builtinReturned {caller : String} {exitDepth : Nat} {s s' s'' : Recorded Machine}
      {st : Statement} {m : Machine} {function argc : Nat} {h h' : History}
      {r : Except VmError Unit} (hf : Fetches linked s st)
      (hd : Exec.dispatch linked.setup st (ready linked.setup st s).state =
        .ok (.builtin function argc) m)
      (hb : Runs linked (.builtin caller function argc) ⟨m, (ready linked.setup st s).journal⟩ h
        (.ok ()) s')
      (hl : Runs linked (.loop caller exitDepth)
        (mapContext (·.setStatement (s.state.context.statement + 1)) s') h' r s'') :
      Runs linked (.loop caller exitDepth) s
        (.due s.state :: .dispatched st (ready linked.setup st s).state :: (h ++ h')) r s''
  | unbound {caller : String} {function argc : Nat} {s : Recorded Machine}
      (hb : linked.bound[function]?.join = none) :
      Runs linked (.builtin caller function argc) s []
        (.error (located linked.setup caller (.unbound (linked.setup.image.functionName function))
          (charged s).state))
        (charged s)
  | unavailable {caller : String} {function argc : Nat} {s : Recorded Machine} {b : Builtin}
      (hb : linked.bound[function]? = some (some b))
      (hd : b.domains.contains linked.setup.domain = false) :
      Runs linked (.builtin caller function argc) s []
        (.error (located linked.setup caller
          (.unavailable b.name linked.setup.domain b.domains) (charged s).state))
        (charged s)
  | hosted {caller : String} {function argc : Nat} {s s' s'' : Recorded Machine} {b : Builtin}
      {h : History} {r r' : Except VmError Unit}
      (hb : linked.bound[function]? = some (some b))
      (hd : b.domains.contains linked.setup.domain = true)
      (hh : Runs linked (.host (linked.setup.image.functionName function)
        (b.run ⟨linked.setup, function, argc⟩)) (started function s) h r s')
      (hr : settle (raisePending r) s' = (r', s'')) :
      Runs linked (.builtin caller function argc) s
        (.hosted function (started function s).state :: h) r' s''
  | done {label : String} {r : Except VmError Unit} {s : Recorded Machine} :
      Runs linked (.host label (.done r)) s [] r s
  | answered {label : String} {op : HostOp} {next : op.Answer → Host (Except VmError Unit)}
      {s s' s'' : Recorded Machine} {a : op.Answer} {h : History} {r : Except VmError Unit}
      (ht : target? label s.state op = none)
      (ha : answer noCalls linked.setup label op s = (a, s'))
      (hh : Runs linked (.host label (next a)) s' h r s'') :
      Runs linked (.host label (.ask op next)) s (.asked op s.state :: h) r s''
  | called {label : String} {function : Nat}
      {next : Except VmError Unit → Host (Except VmError Unit)} {s s' s'' : Recorded Machine}
      {h h' : History} {r r' : Except VmError Unit} (hp : s.state.context.pending = none)
      (hc : Runs linked (.call function label) s h r s')
      (hh : Runs linked (.host label (next r)) s' h' r' s'') :
      Runs linked (.host label (.ask (.call function) next)) s
        (.asked (.call function) s.state :: (h ++ .ended r s'.state :: h')) r' s''
  | executed {label : String} {function : Nat} {caller : String}
      {next : Except VmError Unit → Host (Except VmError Unit)} {s s' s'' : Recorded Machine}
      {h h' : History} {r r' : Except VmError Unit}
      (hc : Runs linked (.call function caller) s h r s')
      (hh : Runs linked (.host label (next r)) s' h' r' s'') :
      Runs linked (.host label (.ask (.execute function caller) next)) s
        (.asked (.execute function caller) s.state :: (h ++ .ended r s'.state :: h')) r' s''

lemma located_eq (setup : Setup) (caller : String) (fault : Fault) (m : Machine) :
    ∃ e, e.fault = fault ∧ located setup caller fault m = .runtime (.execution e) := by
  rw [located]
  split <;> exact ⟨_, rfl, rfl⟩

end GameVm.Call
