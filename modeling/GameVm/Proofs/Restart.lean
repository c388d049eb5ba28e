import GameVm.Proofs.Lifetimes
import GameVm.Proofs.Nesting

/-! Resetting an instance is as good as bringing it up anew; inside a call it is refused. -/

namespace GameVm

lemma PerDomain.set_set {α : Type} (s : PerDomain α) (d : Domain) (a b : Option α) :
    (s.set d a).set d b = s.set d b := by
  cases d <;> rfl

/-- A reset goes over what the machine holds part by part; where the sizes are those of a fresh
machine, nothing else is left of what was there. -/
lemma Machine.restart_eq_fresh {setup : Setup} {m : Machine} {capacity recordCells : Nat}
    (hm : m.memory.Fits setup) (h : m.sizes = (fresh setup capacity recordCells).sizes) :
    m.restart setup = fresh setup capacity recordCells := by
  simp only [sizes, fresh, Entities.fresh, StringTable.fresh, StringTable.poolSize, Sizes.mk.injEq,
    Array.size_setIfInBounds, Array.size_replicate] at h
  obtain ⟨hcapacity, hrecord, hslots, hconstants, hpool, hscratch, hcounters⟩ := h
  have hglobals : m.memory.globals.reset setup.image.parts.globals =
      ⟨setup.image.parts.globals⟩ := Globals.reset_eq hm.globals
  have hentities : m.memory.entities.clear = Entities.fresh capacity recordCells := by
    rw [Entities.clear_eq_fresh hm.whole (by omega) (by omega) (by omega), hcapacity, hrecord]
    simp [Entities.fresh]
  have hstrings : m.memory.strings.reset = StringTable.fresh setup.image.parts.strings
      setup.settings.scratchStrings setup.settings.scratchStringSize := by
    rw [StringTable.reset_eq_fresh (by rw [StringTable.poolSize]; omega), hconstants,
      StringTable.poolSize, hpool, hscratch]
    simp [StringTable.fresh]
  rw [restart, resetProfile, fresh, hglobals, hentities, hstrings, hcounters]

lemma Call.reset_refused {linked : Linked} (hc : linked.setup.Checked) {s : Recorded Machine}
    (hs : s.state.AtHost linked.setup) {function : Nat} {caller : String} {m : Machine}
    (hm : .asked .reset m ∈ history linked function caller s)
    (reenter : Nat → String → Call Unit) (label : String) (journal : Journal) :
    answer reenter linked.setup label .reset ⟨m, journal⟩ =
      (.error (.busy linked.setup.domain), ⟨m, journal⟩) := by
  have hrun : m.context.isRunning = true :=
    decide_eq_true (history_inside hc hs function caller _ hm).running
  simp only [answer, settle, reset, hrun, if_true]
  rfl

lemma Instance.serve_reset {i : Instance} (hidle : i.machine.context.activeCalls = 0)
    (journal : Journal) : ∃ journal', serve Service.reset.run ⟨i, journal⟩ =
      (.ok (), ⟨⟨i.linked, i.machine.restart i.linked.setup⟩, journal'⟩) := by
  have hrun : i.machine.context.isRunning = false := by simp [Context.isRunning, hidle]
  simp only [serve, Service.reset, Host.request, ExceptT.run, Call.host, Call.answer, Call.settle,
    Call.reset, hrun, Bool.false_eq_true, if_false]
  exact ⟨_, rfl⟩

namespace Registry

variable {s : Recorded Registry} {d : Domain} {i : Instance}

lemma run_reset (hi : s.state.instances.get d = some i)
    (hidle : i.machine.context.activeCalls = 0) :
    ((Op.reset d).run s).1 = .ok () ∧
    ((Op.reset d).run s).2.state = { s.state with
      instances :=
        s.state.instances.set d (some ⟨i.linked, i.machine.restart i.linked.setup⟩) } := by
  obtain ⟨r, journal⟩ := s
  obtain ⟨journal', hserve⟩ := Instance.serve_reset hidle journal
  simp only [Op.run, settle, reset, onOrFail_eq_served hi, served, hserve, and_self]

lemma run_destroy (hi : s.state.instances.get d = some i) :
    ((Op.destroy d).run s).1 = .ok () ∧
    ((Op.destroy d).run s).2.state = { s.state with
      instances := s.state.instances.set d none
      active := if s.state.active = some d then none else s.state.active } := by
  obtain ⟨r, journal⟩ := s
  have hc : r.contains d = true := Option.isSome_iff_exists.mpr ⟨i, hi⟩
  simp [Op.run, settle, destroy, hc]

section Anew

variable {bytes : Bytes} {options : InstanceOptions} {first : Instance}
  (hfirst : s.state.newcomer d bytes options = .ok first)

include hfirst

lemma restart_eq_first (hi : i.Descends first) :
    (⟨i.linked, i.machine.restart i.linked.setup⟩ : Instance) = first := by
  obtain ⟨image, bound, -, -, -, rfl⟩ := newcomer_eq_ok hfirst
  have hsetup : i.linked.setup = Setup.ofImage d image s.state.settings :=
    congrArg Linked.setup hi.linked
  rw [hsetup, Machine.restart_eq_fresh (hsetup ▸ hi.atHost.memory) hi.sizes, hi.linked]

lemma run_create_anew (hi : s.state.instances.get d = some i) :
    ((Op.create d bytes options).run ((Op.destroy d).run s).2).1 = .ok () ∧
    ((Op.create d bytes options).run ((Op.destroy d).run s).2).2.state = { s.state with
      instances := s.state.instances.set d (some first)
      active := if s.state.active = some d then none else s.state.active } := by
  have hstate := (run_destroy hi).2
  have hfree : ((Op.destroy d).run s).2.state.instances.get d = none := by
    rw [hstate]
    exact PerDomain.get_set ..
  have hagain : ((Op.destroy d).run s).2.state.newcomer d bytes options = .ok first := by
    rw [hstate]
    exact hfirst
  have hanew := run_create_ok hfree hagain
  refine ⟨hanew.1, hanew.2.trans ?_⟩
  simp only [hstate, PerDomain.set_set]

end Anew

/-- Whatever has been done since an instance was created, short of destroying it: between calls,
resetting it succeeds, and so does destroying it and creating it once more, with the same registry
as the outcome, save that the active domain stays; inside a call, resetting it is refused. -/
theorem reset_eq_create_anew {s₀ : Recorded Registry} {d : Domain} {bytes : Bytes}
    {options : InstanceOptions} (hcreate : ((Op.create d bytes options).run s₀).1 = .ok ())
    {ops : List Op} (hops : Op.destroy d ∉ ops) :
    let s := after ((Op.create d bytes options).run s₀).2 ops
    let anew := (Op.create d bytes options).run ((Op.destroy d).run s).2
    ((Op.reset d).run s).1 = .ok () ∧ ((Op.destroy d).run s).1 = .ok () ∧ anew.1 = .ok () ∧
    ((Op.reset d).run s).2.state = { anew.2.state with active := s.state.active } ∧
    ∃ i, s.state.instances.get d = some i ∧ ∀ function caller journal m,
      .asked .reset m ∈ Call.history i.linked function caller ⟨i.machine, journal⟩ →
      ∀ reenter label journal, Call.answer reenter i.linked.setup label .reset ⟨m, journal⟩ =
        (.error (.busy d), ⟨m, journal⟩) := by
  intro s anew
  obtain ⟨created, hget, hup⟩ := broughtUp_create hcreate
  -- The table of builtins has only grown, so that bringing up gives the first state of `i` again.
  obtain ⟨i, hi, first, hfirst, hdescends⟩ := broughtUp_after hget hup hops
  have hreset := run_reset hi hdescends.idle
  have hanew := run_create_anew hfirst hi
  refine ⟨hreset.1, (run_destroy hi).1, hanew.1, ?_, i, hi, fun function caller journal m hm => ?_⟩
  · rw [hreset.2, hanew.2, restart_eq_first hfirst hdescends]
  · have hc : i.linked.setup.Checked := hdescends.linked ▸ (created_of_newcomer hfirst).checked
    have hd : i.linked.setup.domain = d := hdescends.linked ▸ domain_of_newcomer hfirst
    rw [← hd]
    exact Call.reset_refused hc hdescends.atHost hm

def asksReset : Moment → Bool
  | .asked .reset _ => true
  | _ => false

lemma eq_of_asksReset {moment : Moment} (h : asksReset moment = true) :
    ∃ m, moment = .asked .reset m := by
  cases moment with
  | asked op m =>
    cases op with
    | reset => exact ⟨m, rfl⟩
    | _ => cases h
  | _ => cases h

/-! The host of the relay asks for a reset inside a call, and is reset after two calls, one of which
was aborted. -/

def resetter : Builtin :=
  ⟨"ask", .all, fun _ => Host.ask .reset fun _ => Host.done (.ok ())⟩

def offered : Recorded Registry :=
  after ⟨fresh Relay.settings, #[]⟩ [.register resetter, .register Relay.stop]

def creation : Op := .create .server Relay.parts.encode { entityCapacity := 4 }

def pursuits : List Op :=
  [.bind .server, .execute 1 "host", .execute 2 "host",
    .on .server fun _ => .ask (.memory (.persist [65])) fun _ => .done (),
    .register ⟨"late", .all, fun _ => Host.done (.ok ())⟩]

def pursued : Recorded Registry := after (creation.run offered).2 pursuits

theorem pursued_reset :
    (creation.run offered).1 = .ok () ∧ Op.destroy .server ∉ pursuits ∧
    (pursued.state.instances.get .server).map (·.machine.memory.strings.live) = some 1 ∧
    ((Op.reset .server).run pursued).1 = .ok () ∧
    ((Op.reset .server).run pursued).2.state =
      { (creation.run ((Op.destroy .server).run pursued).2).2.state with
        active := pursued.state.active } ∧
    ∃ i m, pursued.state.instances.get .server = some i ∧
      .asked .reset m ∈ Call.history i.linked 1 "host" ⟨i.machine, #[]⟩ ∧
      ∀ reenter label journal, Call.answer reenter i.linked.setup label .reset ⟨m, journal⟩ =
        (.error (.busy .server), ⟨m, journal⟩) := by
  have hcreate : (creation.run offered).1 = .ok () := by decide +kernel
  have hops : Op.destroy .server ∉ pursuits := by simp [pursuits]
  have hlive : (pursued.state.instances.get .server).map (·.machine.memory.strings.live) =
      some 1 := by decide +kernel
  have hasked : (pursued.state.instances.get .server).any (fun i =>
      (Call.history i.linked 1 "host" ⟨i.machine, #[]⟩).any asksReset) = true := by
    decide +kernel
  have hcreation : Op.create .server Relay.parts.encode { entityCapacity := 4 } = creation := rfl
  have hpursued : after (creation.run offered).2 pursuits = pursued := rfl
  have hall := reset_eq_create_anew hcreate hops
  dsimp only at hall
  rw [hcreation, hpursued] at hall
  obtain ⟨hok, -, -, hstate, i, hi, hbusy⟩ := hall
  refine ⟨hcreate, hops, hlive, hok, hstate, i, ?_⟩
  rw [hi, Option.any_some] at hasked
  obtain ⟨moment, hm, hreset⟩ := List.any_eq_true.mp hasked
  obtain ⟨m, rfl⟩ := eq_of_asksReset hreset
  exact ⟨m, hi, hm, hbusy _ _ _ _ hm⟩

end Registry

end GameVm
