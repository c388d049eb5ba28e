import GameVm.Proofs.Lifetimes
import GameVm.Proofs.Provenance

/-! Builtins: which programs can be brought up for a domain, which host code their calls can start,
and which of their calls the machine refuses. -/

namespace GameVm

namespace Call

variable {linked : Linked} {function : Nat}

section Unavailable

variable {b : Builtin} (hb : linked.bound[function]? = some (some b))
  (hd : b.domains.contains linked.setup.domain = false)

include hb hd

lemma builtin_unavailable (reenter : Nat → String → Call Unit) (caller : String) (argc : Nat)
    (s : Recorded Machine) :
    builtin reenter linked caller function argc s = .error (located linked.setup caller
      (.unavailable b.name linked.setup.domain b.domains) (charged s).state) (charged s) := by
  simp only [builtin, hb, hd]
  rfl

lemma builtinHistory_unavailable (reenter : Nat → String → Call Unit)
    (nested : Nat → String → Recorded Machine → History) (argc : Nat) (s : Recorded Machine) :
    builtinHistory reenter nested linked function argc s = [] := by
  simp [builtinHistory, hb, hd]

end Unavailable

end Call

/-- The machine refuses a call of a builtin before any host code runs, and all that changes is a
counter. -/
structure Machine.Refuses (linked : Linked) (st : Statement) (m : Machine) (function : Nat)
    (fault : Fault) : Prop where
  called : ∃ argc, Exec.dispatch linked.setup st m = .ok (.builtin function argc) m
  silent : ∀ reenter nested argc journal,
    Call.builtinHistory reenter nested linked function argc ⟨m, journal⟩ = []
  fails : ∀ reenter caller argc journal, ∃ m',
    Call.builtin reenter linked caller function argc ⟨m, journal⟩ =
      .error (Call.located linked.setup caller fault m') ⟨m', journal⟩ ∧
    m'.memory = m.memory ∧ m'.context = m.context

structure Moment.Permitted (offered : List Builtin) (linked : Linked) (moment : Moment) : Prop where
  hosted : ∀ function m, moment = .hosted function m → ∃ b ∈ offered,
    linked.bound[function]? = some (some b) ∧ b.domains.contains linked.setup.domain = true ∧
    (function, b.name) ∈ linked.setup.image.builtins
  bound : ∀ name, moment.raises? linked ≠ some (.unbound name)
  unavailable : ∀ name d allowed, moment.raises? linked = some (.unavailable name d allowed) →
    linked.setup.settings.builtinBinding = .deferred ∧ d = linked.setup.domain ∧
    allowed.contains d = false ∧ (∃ b ∈ offered, b.name = name ∧ b.domains = allowed) ∧
    ∃ st m function, moment = .dispatched st m ∧
      (function, name) ∈ linked.setup.image.builtins ∧
      m.Refuses linked st function (.unavailable name d allowed)

lemma Moment.Permitted.of_not_ofBuiltin {offered : List Builtin} {linked : Linked}
    {moment : Moment} (hh : ∀ function m, moment ≠ .hosted function m)
    (hr : ∀ fault, moment.raises? linked = some fault → ¬ fault.OfBuiltin) :
    moment.Permitted offered linked where
  hosted function m he := absurd he (hh function m)
  bound _ he := hr _ he trivial
  unavailable _ _ _ he := absurd trivial (hr _ he)

namespace Linked

variable {linked : Linked} {table : BuiltinTable}
  (hbind : table.bind linked.setup.domain linked.setup.settings.builtinBinding linked.setup.image =
    .ok linked.bound)

include hbind

lemma bound_of_declared {function : Nat} {entry : FunctionEntry}
    (hf : linked.setup.image.function? function = some entry) (he : entry.isBuiltin = true) :
    ∃ b ∈ table.entries.toList, linked.bound[function]? = some (some b) ∧
      (function, b.name) ∈ linked.setup.image.builtins ∧
      (b.domains.contains linked.setup.domain = true ∨
        linked.setup.settings.builtinBinding = .deferred) := by
  obtain ⟨place, hplace, hl⟩ := BuiltinTable.links_of_bind hbind hf
  cases place with
  | none =>
    rw [BuiltinTable.Links, he] at hl
    cases hl
  | some b =>
    obtain ⟨hg, hd⟩ := BuiltinTable.resolve_eq_ok_iff.mp hl.2
    obtain ⟨hmem, hname⟩ := BuiltinTable.mem_of_get? hg
    exact ⟨b, hmem, hplace, Image.mem_builtins.mpr ⟨entry, hf, he, hname.symm⟩, hd⟩

lemma declared_of_bound {function : Nat} {b : Builtin}
    (hb : linked.bound[function]? = some (some b)) :
    b ∈ table.entries.toList ∧ (function, b.name) ∈ linked.setup.image.builtins := by
  obtain ⟨hdeclared, hresolve⟩ := BuiltinTable.declared_of_bound hbind hb
  obtain ⟨hmem, hname⟩ := BuiltinTable.mem_of_get? (BuiltinTable.resolve_eq_ok_iff.mp hresolve).1
  rw [hname]
  exact ⟨hmem, hdeclared⟩

lemma permitted_dispatched {st : Statement} {m : Machine} {function argc : Nat}
    {entry : FunctionEntry} (hf : linked.setup.image.function? function = some entry)
    (he : entry.isBuiltin = true)
    (hd : Exec.dispatch linked.setup st m = .ok (.builtin function argc) m) :
    (Moment.dispatched st m).Permitted table.entries.toList linked := by
  obtain ⟨b, hmem, hb, hdeclared, hallowed⟩ := bound_of_declared hbind hf he
  have hraises : (Moment.dispatched st m).raises? linked =
      if b.domains.contains linked.setup.domain then none
      else some (.unavailable b.name linked.setup.domain b.domains) := by
    simp only [Moment.raises?, hd, refusal?_of_bound hb]
  refine ⟨by rintro _ _ ⟨⟩, fun name hr => ?_, fun name d allowed hr => ?_⟩
  · rw [hraises] at hr
    split_ifs at hr
    cases hr
  · rw [hraises] at hr
    split_ifs at hr with hcontains
    cases hr
    rw [Bool.not_eq_true] at hcontains
    have hpolicy := hallowed.resolve_left (by simp [hcontains])
    refine ⟨hpolicy, rfl, hcontains, ⟨b, hmem, rfl, rfl⟩, st, m, function, rfl, hdeclared,
      ⟨argc, hd⟩, fun reenter nested argc journal => ?_, fun reenter caller argc journal => ?_⟩
    · exact Call.builtinHistory_unavailable hb hcontains reenter nested argc _
    · exact ⟨_, Call.builtin_unavailable hb hcontains reenter caller argc _, rfl, rfl⟩

lemma permitted_of_sound (hc : linked.setup.Checked) {moment : Moment}
    (hs : moment.Sound linked.setup)
    (hh : ∀ function m, moment = .hosted function m →
      ∃ b, linked.bound[function]? = some (some b) ∧
        b.domains.contains linked.setup.domain = true) :
    moment.Permitted table.entries.toList linked := by
  cases moment with
  | asked op m =>
    refine .of_not_ofBuiltin (by simp) fun fault hr => ?_
    obtain ⟨target, -, hfault⟩ := Option.bind_eq_some_iff.mp hr
    obtain ⟨m', he⟩ := Exec.error_of_fault? hfault
    exact Exec.not_ofBuiltin_of_enter he
  | due m =>
    refine .of_not_ofBuiltin (by simp) fun fault hr => ?_
    rw [Moment.raises?] at hr
    split_ifs at hr
    cases hr
    exact id
  | dispatched st m =>
    -- The one moment at which builtins can be refused: the statement calls one and does not fail.
    cases hd : Exec.dispatch linked.setup st m with
    | error fault m' =>
      refine .of_not_ofBuiltin (by simp) fun fault' hr => ?_
      simp only [Moment.raises?, hd] at hr
      cases hr
      exact (Call.harmless_of_error hc hs hd).2.not_ofBuiltin
    | ok flow m' =>
      have heffect := Call.effect_of_ok hc hs hd
      cases flow with
      | builtin function argc =>
        cases heffect with
        | builtin hf he => exact permitted_dispatched hbind hf he hd
      | running =>
        exact .of_not_ofBuiltin (by simp) (by simp [Moment.raises?, hd])
      | returned =>
        exact .of_not_ofBuiltin (by simp) (by simp [Moment.raises?, hd])
  | pushed function m =>
    exact .of_not_ofBuiltin (by simp) (by simp [Moment.raises?])
  | ended result m =>
    exact .of_not_ofBuiltin (by simp) (by simp [Moment.raises?])
  | hosted function m =>
    refine ⟨fun function' m' he => ?_, by simp [Moment.raises?], by simp [Moment.raises?]⟩
    cases he
    obtain ⟨b, hb, hd⟩ := hh function m rfl
    obtain ⟨hmem, hdeclared⟩ := declared_of_bound hbind hb
    exact ⟨b, hmem, hb, hd, hdeclared⟩

end Linked

lemma Linked.session_permitted {linked : Linked} {table : BuiltinTable}
    (hbind : table.bind linked.setup.domain linked.setup.settings.builtinBinding
      linked.setup.image = .ok linked.bound) (hc : linked.setup.Checked) {m : Machine}
    (hm : m.AtHost linked.setup) {α : Type} (code : Host α) (journal : Journal) {moment : Moment}
    (hmem : moment ∈ Instance.history ⟨linked, m⟩ code journal) :
    moment.Permitted table.entries.toList linked := by
  have hs := (session_neutral hc hm code journal).moments moment hmem
  refine permitted_of_sound hbind hc hs fun function m' he => ?_
  subst he
  rcases Call.mem_session hc "host" code hm hmem with
    ⟨op, m', he⟩ | ⟨r, m', he⟩ | ⟨f, caller, s, hat, hin⟩
  · cases he
  · cases he
  · exact (Call.history_inside hc hat f caller _ hin).bound function _ rfl

lemma Linked.session_accounted {linked : Linked} {table : BuiltinTable}
    (hbind : table.bind linked.setup.domain linked.setup.settings.builtinBinding
      linked.setup.image = .ok linked.bound) (hc : linked.setup.Checked) {m : Machine}
    (hm : m.AtHost linked.setup) (hidle : m.context.activeCalls = 0)
    (hhonest : ∀ b ∈ table.entries.toList, b.Honest) {α : Type} (code : Host α) (journal : Journal)
    {r : Except VmError Unit} {m' : Machine}
    (hmem : .ended r m' ∈ Instance.history ⟨linked, m⟩ code journal) {e : ExecutionError}
    (he : Call.fault? r = some (.execution e)) (hb : e.fault.OfBuiltin) :
    ∃ moment ∈ Instance.history ⟨linked, m⟩ code journal,
      moment.raises? linked = some e.fault := by
  have hs := (session_neutral hc hm code journal).moments
  have hhost : ∀ (function : Nat) (b : Builtin), linked.bound[function]? = some (some b) →
      b.Honest := fun function b hbound => hhonest b (declared_of_bound hbind hbound).1
  -- The faults to which the calls are confined are those raised in this very session.
  have hup : Call.Upright (fun fault => fault.OfBuiltin →
      ∃ moment ∈ Instance.history ⟨linked, m⟩ code journal, moment.raises? linked = some fault)
      (Instance.history ⟨linked, m⟩ code journal) := by
    refine Call.session_upright hc (fun fault hno hb => absurd hb hno) hhost "host" code hm hidle ?_
    exact fun moment hmoment => ⟨hs moment hmoment, fun fault hr _ => ⟨moment, hmoment, hr⟩⟩
  exact hup r m' hmem e he hb

namespace Registry

variable {s : Recorded Registry}

def added? (s : Recorded Registry) (op : Op) : Option Builtin :=
  match op, (op.run s).1 with
  | .register b, .ok _ => some b
  | _, _ => none

def registered (s : Recorded Registry) : List Op → List Builtin
  | [] => []
  | op :: ops => (added? s op).toList ++ registered (op.run s).2 ops

lemma entries_run (s : Recorded Registry) (op : Op) :
    (op.run s).2.state.builtins.entries.toList =
      s.state.builtins.entries.toList ++ (added? s op).toList := by
  have hkept (ho : ∀ b, op ≠ .register b) :
      (op.run s).2.state.builtins = s.state.builtins ∧ added? s op = none := by
    have he := effect_run s op
    refine ⟨?_, ?_⟩
    · generalize (op.run s).2.state = r' at he
      cases he with
      | registered h hb => exact absurd h (ho _)
      | _ => rfl
    · cases op with
      | register b => exact absurd rfl (ho b)
      | _ => rfl
  cases op with
  | register b =>
    obtain ⟨r, journal⟩ := s
    simp only [added?, Op.run, settle, register]
    cases hb : r.builtins.register b with
    | ok builtins => simp [BuiltinTable.entries_register hb]
    | error err => simp
  | _ =>
    obtain ⟨hb, hn⟩ := hkept (by rintro b ⟨⟩)
    rw [hb, hn]
    exact (List.append_nil _).symm

lemma entries_after (s : Recorded Registry) (ops : List Op) :
    (after s ops).state.builtins.entries.toList =
      s.state.builtins.entries.toList ++ registered s ops := by
  induction ops generalizing s with
  | nil => exact (List.append_nil _).symm
  | cons op ops ih =>
    rw [registered, ← List.append_assoc, ← entries_run]
    exact ih _

lemma distinct_after (hs : s.state.builtins.Distinct) (ops : List Op) :
    (after s ops).state.builtins.Distinct := by
  induction ops generalizing s with
  | nil => exact hs
  | cons op ops ih =>
    refine ih ?_
    have he := effect_run s op
    generalize (op.run s).2.state = r' at he
    cases he with
    | registered h hb => exact hs.register hb
    | _ => exact hs

section Create

variable {d : Domain} {bytes : Bytes} {options : InstanceOptions} {image : Image}
  (hn : s.state.instances.get d = none) (ha : Loader.accept bytes options.load = .ok image)
  (ho : Instance.optionsFlaw? image options = none)

include hn ha ho

lemma create_ok_or_unresolved : ((Op.create d bytes options).run s).1 = .ok () ∨
    ∃ name reason, ((Op.create d bytes options).run s).1 =
      .error (.unresolvedBuiltin d name reason) := by
  rw [run_create hn, newcomer_eq ha ho]
  cases hb : s.state.builtins.bind d s.state.settings.builtinBinding image with
  | ok bound => exact .inl rfl
  | error err =>
    obtain ⟨name, reason, rfl⟩ := BuiltinTable.bind_eq_error hb
    exact .inr ⟨name, reason, rfl⟩

lemma create_unresolved_iff (hs : s.state.builtins.Distinct) :
    (∃ name reason, ((Op.create d bytes options).run s).1 =
      .error (.unresolvedBuiltin d name reason)) ↔
    ∃ p ∈ image.builtins, ∀ b ∈ s.state.builtins.entries.toList, b.name = p.2 →
      b.domains.contains d = false ∧ s.state.settings.builtinBinding ≠ .deferred := by
  simp only [← BuiltinTable.resolve_fails_iff hs]
  rw [← BuiltinTable.bind_fails_iff, run_create hn, newcomer_eq ha ho]
  constructor
  · rintro ⟨name, reason, he⟩
    cases hb : s.state.builtins.bind d s.state.settings.builtinBinding image with
    | ok bound =>
      rw [hb] at he
      cases he
    | error err => exact ⟨err, rfl⟩
  · rintro ⟨err, hb⟩
    obtain ⟨name, reason, rfl⟩ := BuiltinTable.bind_eq_error hb
    exact ⟨name, reason, by rw [hb]; rfl⟩

end Create

/-- After any operations, with the builtins they have registered: a program that passes the other
checks can be brought up for a domain unless a name that it declares as a builtin is not registered,
or, under strict binding, registered for other domains only. Whatever the host does with an
instance, only code of builtins registered for its domain is started, for functions declared under
their names; no call finds its function unbound; and a call is refused because the builtin is not
available only under deferred binding, if it is registered for other domains, before any code runs
or memory changes. Builtins that make up no such faults pass on only those raised in this way. -/
theorem bindings_sound_and_complete (settings : Settings) (journal : Journal) (ops : List Op) :
    let s := after ⟨fresh settings, journal⟩ ops
    let offered := registered ⟨fresh settings, journal⟩ ops
    (∀ d bytes options image, s.state.instances.get d = none →
      Loader.accept bytes options.load = .ok image →
      Instance.optionsFlaw? image options = none →
      let outcome := ((Op.create d bytes options).run s).1
      let unresolved := ∃ name reason, outcome = .error (.unresolvedBuiltin d name reason)
      (outcome = .ok () ∨ unresolved) ∧
      (settings.builtinBinding = .strict → (unresolved ↔ ∃ p ∈ image.builtins,
        ∀ b ∈ offered, b.name = p.2 → b.domains.contains d = false)) ∧
      (settings.builtinBinding = .deferred → (unresolved ↔ ∃ p ∈ image.builtins,
        ∀ b ∈ offered, b.name ≠ p.2))) ∧
    ∀ d i, s.state.instances.get d = some i →
      i.linked.setup.domain = d ∧ i.linked.setup.settings = settings ∧
      ∀ (α : Type) (code : Host α) journal,
        (∀ moment ∈ i.history code journal, moment.Permitted offered i.linked) ∧
        ((∀ b ∈ offered, b.Honest) → ∀ r m e, .ended r m ∈ i.history code journal →
          Call.fault? r = some (.execution e) → e.fault.OfBuiltin →
          ∃ moment ∈ i.history code journal, moment.raises? i.linked = some e.fault) := by
  intro s offered
  have hsettings : s.state.settings = settings := settings_after _ ops
  have hentries : s.state.builtins.entries.toList = offered := entries_after _ ops
  have hempty : (fresh settings).builtins.Distinct := List.nodup_nil
  have hdistinct : s.state.builtins.Distinct := distinct_after hempty ops
  refine ⟨fun d bytes options image hn ha ho => ?_, fun d i hi => ?_⟩
  · have hiff := create_unresolved_iff hn ha ho hdistinct
    rw [hentries, hsettings] at hiff
    refine ⟨create_ok_or_unresolved hn ha ho, fun hp => hiff.trans ?_, fun hp => hiff.trans ?_⟩
    · simp [hp]
    · simp [hp]
  · have hpopulated : s.state.Populated := Populated.after (populated_fresh settings) ops
    obtain ⟨bytes, options, first, hfirst, hdescends⟩ := hpopulated d i hi
    have hl := hdescends.linked
    have hat := hdescends.atHost
    have hc : i.linked.setup.Checked := hl ▸ (created_of_newcomer hfirst).checked
    obtain ⟨hset, hbind⟩ := bind_of_newcomer hfirst
    rw [← hl] at hset hbind
    refine ⟨hl ▸ domain_of_newcomer hfirst, hset.trans hsettings, fun α code journal => ?_⟩
    rw [← hentries]
    exact ⟨fun moment hm => Linked.session_permitted hbind hc hat code journal hm,
      fun hhonest r m e hm he => Linked.session_accounted hbind hc hat hdescends.idle hhonest code
        journal hm he⟩

/-! The server runs the relay, and one of its two builtins is registered for the client only. -/

def clientOnly : Builtin := ⟨"ask", .only .client, fun _ => Host.done (.ok ())⟩

def offers : List Op := [.register clientOnly, .register Relay.stop]

def trial : Op := .create .server Relay.parts.encode { entityCapacity := 4 }

def lenient : Settings := { Relay.settings with builtinBinding := .deferred }

def lenientTrial : Recorded Registry := after ⟨fresh lenient, #[]⟩ (offers ++ [trial])

def bothCalls : Host Unit :=
  .ask (.execute 2 "host") fun _ => .ask (.execute 1 "host") fun _ => .done ()

def endsWith (fault : Fault) : Moment → Bool
  | .ended (.error (.runtime (.execution e))) _ => e.fault = fault
  | _ => false

lemma eq_of_endsWith {fault : Fault} {moment : Moment} (h : endsWith fault moment = true) :
    ∃ r m e, moment = .ended r m ∧ Call.fault? r = some (.execution e) ∧ e.fault = fault := by
  unfold endsWith at h
  split at h
  · exact ⟨_, _, _, rfl, rfl, of_decide_eq_true h⟩
  · cases h

lemma honest_offers : ∀ b ∈ [clientOnly, Relay.stop], b.Honest := by
  simp only [List.forall_mem_cons, List.not_mem_nil, false_implies, implies_true, and_true]
  refine ⟨fun site P hP => ?_, fun site P hP => ?_⟩
  · rintro e ⟨⟩
  · rintro e ⟨⟩

lemma accept_relay : Loader.accept Relay.parts.encode {} = .ok (Image.ofParts Relay.parts) := by
  have hs : Loader.shortfall? (Image.ofParts Relay.parts) {} = none := rfl
  rw [Loader.accept, Relay.decode_encode]
  simp only [Bind.bind, Except.bind, hs]
  rfl

theorem trial_fails_or_refuses_calls :
    (∃ p ∈ (Image.ofParts Relay.parts).builtins,
      ∀ b ∈ registered ⟨fresh Relay.settings, #[]⟩ offers, b.name = p.2 →
        b.domains.contains .server = false) ∧
    ∃ i, lenientTrial.state.instances.get .server = some i ∧
      (∃ m, .hosted 4 m ∈ i.history bothCalls #[] ∧
        ∃ b ∈ registered ⟨fresh lenient, #[]⟩ (offers ++ [trial]),
          b.domains.contains .server = true ∧ (4, b.name) ∈ i.image.builtins) ∧
      (∃ moment ∈ i.history bothCalls #[],
        endsWith (.unavailable "ask" .server (.only .client)) moment = true) ∧
      ∃ st m function, .dispatched st m ∈ i.history bothCalls #[] ∧
        (function, "ask") ∈ i.image.builtins ∧
        m.Refuses i.linked st function (.unavailable "ask" .server (.only .client)) := by
  constructor
  · have hfree : (after ⟨fresh Relay.settings, #[]⟩ offers).state.instances.get .server = none :=
      Option.isNone_iff_eq_none.mp (by decide +kernel)
    have ho : Instance.optionsFlaw? (Image.ofParts Relay.parts) { entityCapacity := 4 } = none := by
      decide +kernel
    have hfails : (trial.run (after ⟨fresh Relay.settings, #[]⟩ offers)).1 =
        .error (.unresolvedBuiltin .server "ask" "only available to client") := by decide +kernel
    have hcreate := (bindings_sound_and_complete Relay.settings #[] offers).1 .server
      Relay.parts.encode { entityCapacity := 4 } _ hfree accept_relay ho
    exact (hcreate.2.1 rfl).mp ⟨_, _, hfails⟩
  · have hsome : (lenientTrial.state.instances.get .server).any (fun i =>
        (i.history bothCalls #[]).any (Moment.hosts 4) && (i.history bothCalls #[]).any
          (endsWith (.unavailable "ask" .server (.only .client)))) = true := by decide +kernel
    obtain ⟨i, hi, hboth⟩ := (Option.any_eq_true _ _).mp hsome
    obtain ⟨hhosted, hended⟩ := (Bool.and_eq_true _ _).mp hboth
    have htrial : after ⟨fresh lenient, #[]⟩ (offers ++ [trial]) = lenientTrial := rfl
    have hoffered : registered ⟨fresh lenient, #[]⟩ (offers ++ [trial]) =
        [clientOnly, Relay.stop] := rfl
    have hall := (bindings_sound_and_complete lenient #[] (offers ++ [trial])).2
    rw [htrial] at hall
    obtain ⟨hdomain, -, hsession⟩ := hall .server i hi
    obtain ⟨hpermitted, haccounted⟩ := hsession Unit bothCalls #[]
    refine ⟨i, hi, ?_, ?_, ?_⟩
    · obtain ⟨moment, hm, hmoment⟩ := List.any_eq_true.mp hhosted
      obtain ⟨m, rfl⟩ := Moment.eq_of_hosts hmoment
      obtain ⟨b, hmem, -, hd, hdeclared⟩ := (hpermitted _ hm).hosted _ _ rfl
      rw [hdomain] at hd
      exact ⟨m, hm, b, hmem, hd, hdeclared⟩
    · exact List.any_eq_true.mp hended
    · obtain ⟨ending, hend, hends⟩ := List.any_eq_true.mp hended
      obtain ⟨r, m, e, rfl, hr, he⟩ := eq_of_endsWith hends
      obtain ⟨moment, hm, hmoment⟩ :=
        haccounted (hoffered ▸ honest_offers) r m e hend hr (by rw [he]; trivial)
      rw [he] at hmoment
      obtain ⟨-, -, -, -, st, m, function, rfl, hdeclared, hrefuses⟩ :=
        (hpermitted _ hm).unavailable _ _ _ hmoment
      exact ⟨st, m, function, hm, hdeclared, hrefuses⟩

end Registry

end GameVm
