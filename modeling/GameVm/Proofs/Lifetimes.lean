import GameVm.Proofs.Isolation
import GameVm.Proofs.KeptStrings
import GameVm.Proofs.Linking
import GameVm.Proofs.World

/-! Lifetimes of instances: what is fixed when an instance is brought up stays as it was, whatever
is done with it and with the registry, until it is destroyed. -/

namespace GameVm

/-- What is fixed when a machine is brought up, apart from what its setup says. -/
structure Sizes where
  capacity : Nat
  recordCells : Nat
  slots : Nat
  constants : Blob
  pool : Nat
  scratchSize : Nat
  counters : Nat

namespace Machine

variable {setup : Setup} {m m' : Machine}

def sizes (m : Machine) : Sizes where
  capacity := m.memory.entities.capacity
  recordCells := m.memory.entities.recordCells
  slots := m.memory.entities.slots.size
  constants := m.memory.strings.constants
  pool := m.memory.strings.poolSize
  scratchSize := m.memory.strings.scratchSize
  counters := m.profile.size

lemma SameStores.sizes_eq (h : m'.SameStores m) : m'.sizes = m.sizes := by
  simp only [sizes, h.entities, h.strings, h.counters]

lemma sizes_restart (setup : Setup) (m : Machine) : (m.restart setup).sizes = m.sizes := by
  simp [sizes, restart, resetProfile, Entities.clear, StringTable.reset, StringTable.poolSize]

lemma sizes_memory (m : Machine) (op : MemoryOp) :
    sizes { m with memory := (op.apply m.memory).2 } = m.sizes := by
  simp only [sizes, Sizes.mk.injEq]
  cases op with
  | writeGlobals pos cells =>
    simp only [MemoryOp.apply, MemoryOp.settle, Memory.onGlobals, Globals.write]
    split_ifs <;> simp
  | writeField entity field cells =>
    simp only [MemoryOp.apply, MemoryOp.settle, Memory.onEntities, Entities.setField]
    cases m.memory.entities.span entity field cells.length <;> simp
  | storeEntity byte cells =>
    simp only [MemoryOp.apply, MemoryOp.settle, Memory.onEntities, Entities.store]
    cases m.memory.entities.locate byte cells.length <;> simp
  | allocEntity now =>
    simp only [MemoryOp.apply, MemoryOp.settle, Memory.onEntities, Entities.alloc]
    cases m.memory.entities.next? now <;> simp [Entities.clearRecord]
  | freeEntity entity now =>
    simp only [MemoryOp.apply, MemoryOp.settle, Memory.onEntities, Entities.free]
    split_ifs <;> simp [Entities.clearRecord]
  | clearEntities => simp [MemoryOp.apply, Entities.clear]
  | newScratch bytes =>
    simp [MemoryOp.apply, MemoryOp.onStrings, StringTable.newScratch, StringTable.poolSize]
  | persist bytes =>
    simp only [MemoryOp.apply, MemoryOp.onStrings, StringTable.persist]
    cases m.memory.strings.vacant <;> simp [StringTable.poolSize]
  | release handle =>
    simp only [MemoryOp.apply, MemoryOp.settle, Memory.onStrings]
    rcases m.memory.strings.release_cases handle with ⟨-, hr⟩ | ⟨slot, text, -, -, hr⟩
    · simp [hr]
    · simp [hr, StringTable.poolSize]
  | resetStrings => simp [MemoryOp.apply, StringTable.reset, StringTable.poolSize]

end Machine

namespace Exec

variable {setup : Setup} {st : Statement} {m : Machine}

lemma perform_sizes (hm : m.memory.entities.Whole) (action : Action) :
    Yields (perform setup st action) m fun _ m' => m'.sizes = m.sizes := by
  cases hc : action.isControl with
  | true => exact yields_mono (yields_control hc) fun flow m' h => h.sizes_eq
  | false =>
    refine yields_mono (perform_carriedOut hm hc) fun flow m' h => ?_
    rw [Machine.sizes, h.memory.slots, h.memory.strings, h.profile]
    rfl

end Exec

namespace Call

variable {setup : Setup}

lemma sizes_answer {label : String} {op : HostOp} {s : Recorded Machine}
    (ht : target? label s.state op = none) :
    (answer noCalls setup label op s).2.state.sizes = s.state.sizes := by
  cases op with
  | look => rfl
  | memory mop => exact Machine.sizes_memory _ mop
  | resetProfile => simp [answer, Recorded.map, Machine.resetProfile, Machine.sizes]
  | reset =>
    cases hr : s.state.context.isRunning with
    | true => simp [answer, settle, reset, hr]
    | false =>
      simp only [answer, settle, reset, hr]
      exact Machine.sizes_restart setup _
  | call function =>
    cases hp : s.state.context.pending with
    | none => simp [target?, hp] at ht
    | some err => simp only [answer, hp]
  | execute function caller => cases ht
  | note text => rfl

lemma maintains_sizes {z : Sizes} (hc : setup.Checked) {moment : Moment}
    (hm : moment.Sound setup) : Maintains setup (fun m => m.sizes = z) moment := by
  cases moment with
  | asked op m =>
    rintro rfl label journal ht
    exact sizes_answer ht
  | dispatched st m =>
    refine maintains_dispatch hc hm fun hs => ?_
    refine Exec.yields_mono (Exec.perform_sizes hm.1.memory.whole _) fun flow m' h => ?_
    exact h.trans hs
  | _ => trivial

end Call

lemma Instance.Created.reaches_sizes {i : Instance} {m : Machine} (hi : i.Created)
    (hm : i.Reaches m) : m.sizes = i.machine.sizes := by
  obtain ⟨code, journal, op, hmem⟩ := hm
  have hsizes := Linked.session_always hi.checked hi.atHost code journal
    (P := fun m => m.sizes = i.machine.sizes) (fun a b hab hb => hab.sizes_eq.trans hb) rfl
    fun moment _ hs => Call.maintains_sizes hi.checked hs
  exact hsizes.1 _ hmem

/-- What the host can have made of an instance between two calls: the links and the sizes of the
machine are those it was brought up with. -/
structure Instance.Descends (i first : Instance) : Prop where
  linked : i.linked = first.linked
  sizes : i.machine.sizes = first.machine.sizes
  atHost : i.machine.AtHost i.linked.setup
  idle : i.machine.context.activeCalls = 0

lemma Instance.Descends.serve {i first : Instance} (h : i.Descends first)
    (hc : first.linked.setup.Checked) {α : Type} (code : Host α) (journal : Journal) :
    (Instance.serve code ⟨i, journal⟩).2.state.Descends first := by
  have hchecked : i.linked.setup.Checked := h.linked ▸ hc
  have hn := Linked.session_neutral hchecked h.atHost code journal
  have hsizes := Linked.session_always hchecked h.atHost code journal
    (fun a b hab hb => hab.sizes_eq.trans hb) h.sizes
    fun moment _ hm => Call.maintains_sizes hchecked hm
  exact ⟨h.linked, hsizes.2, hn.atHost, hn.stack.activeCalls.trans h.idle⟩

namespace Logged

variable {α β : Type}

/-- What comes of a part of a bring-up does not depend on the journal. -/
def Gives (act : Logged α) (result : Except VmError α) : Prop :=
  ∀ journal, ∃ journal', act journal =
    match result with
    | .ok a => .ok a journal'
    | .error err => .error err journal'

lemma gives_pure (a : α) : Gives (pure a) (.ok a) := fun journal => ⟨journal, rfl⟩

lemma gives_throw (err : VmError) : Gives (throw err : Logged α) (.error err) :=
  fun journal => ⟨journal, rfl⟩

lemma gives_write (level : Level) (message : String) (fields : List (String × String)) :
    Gives (write level message fields) (.ok ()) :=
  fun _ => ⟨_, rfl⟩

lemma Gives.bind {act : Logged α} {result : Except VmError α} {next : α → Logged β}
    {result' : α → Except VmError β} (h : Gives act result)
    (hn : ∀ a, result = .ok a → Gives (next a) (result' a)) :
    Gives (act >>= next) (result >>= result') := by
  intro journal
  obtain ⟨journal', ha⟩ := h journal
  cases result with
  | error err =>
    refine ⟨journal', ?_⟩
    simp only [Bind.bind, EStateM.bind, ha]
    rfl
  | ok a =>
    obtain ⟨journal'', hb⟩ := hn a rfl journal'
    refine ⟨journal'', ?_⟩
    simp only [Bind.bind, EStateM.bind, ha]
    exact hb

lemma Gives.map {act : Logged α} {result : Except VmError α} (h : Gives act result) (f : α → β) :
    Gives (act >>= fun a => pure (f a)) (result.map f) := by
  have hb := h.bind fun a _ => gives_pure (f a)
  cases result <;> exact hb

lemma Gives.write_bind {level : Level} {message : String} {fields : List (String × String)}
    {next : Unit → Logged β} {result : Except VmError β} (h : Gives (next ()) result) :
    Gives (write level message fields >>= next) result :=
  (gives_write level message fields).bind fun _ _ => h

lemma gives_load (d : Domain) (bytes : Bytes) (options : LoadOptions) :
    Gives (Loader.load d bytes options)
      ((Loader.accept bytes options).mapError .programFormat) := by
  rw [Loader.load]
  cases Loader.accept bytes options with
  | ok image => exact .write_bind (gives_pure image)
  | error err => exact .write_bind (gives_throw _)

lemma gives_link (table : BuiltinTable) (setup : Setup) :
    Gives (Instance.link table setup)
      ((table.bind setup.domain setup.settings.builtinBinding setup.image).map (⟨setup, ·⟩)) := by
  rw [Instance.link]
  cases table.bind setup.domain setup.settings.builtinBinding setup.image with
  | error err => exact gives_throw err
  | ok bound => exact .write_bind (gives_pure _)

end Logged

def Instance.newcomer (table : BuiltinTable) (d : Domain) (image : Image) (settings : Settings)
    (options : InstanceOptions) : Except VmError Instance :=
  match optionsFlaw? image options with
  | some flaw => .error (.invalidOptions flaw)
  | none =>
    let linked :=
      (table.bind d settings.builtinBinding image).map (⟨Setup.ofImage d image settings, ·⟩)
    linked.map fun linked => ⟨linked, Machine.fresh linked.setup options.entityCapacity
      (options.recordCells.getD image.parts.entityCells.toNat)⟩

lemma Instance.gives_newcomer (table : BuiltinTable) (d : Domain) (image : Image)
    (settings : Settings) (options : InstanceOptions) :
    Logged.Gives (bringUp table d image settings options)
      (newcomer table d image settings options) := by
  rw [bringUp, newcomer]
  cases optionsFlaw? image options with
  | some flaw => exact Logged.gives_throw _
  | none => exact (Logged.gives_link table (Setup.ofImage d image settings)).map _

lemma Loader.decode_of_accept {bytes : Bytes} {options : LoadOptions} {image : Image}
    (h : accept bytes options = .ok image) : Image.decode bytes = .ok image := by
  rw [accept] at h
  cases hd : Image.decode bytes with
  | error err =>
    rw [hd] at h
    cases h
  | ok image' =>
    simp only [hd, Bind.bind, Except.bind] at h
    cases hs : shortfall? image' options with
    | some err =>
      rw [hs] at h
      cases h
    | none =>
      rw [hs] at h
      cases h
      rfl

namespace Registry

variable {r r' : Registry} {d : Domain} {bytes : Bytes} {options : InstanceOptions}
  {i i' : Instance}

def newcomer (r : Registry) (d : Domain) (bytes : Bytes) (options : InstanceOptions) :
    Except VmError Instance := do
  let image ← (Loader.accept bytes options.load).mapError .programFormat
  Instance.newcomer r.builtins d image r.settings options

lemma gives_newcomer (r : Registry) (d : Domain) (bytes : Bytes) (options : InstanceOptions) :
    Logged.Gives (create.bringUp d bytes options r) (r.newcomer d bytes options) := by
  rw [create.bringUp, newcomer]
  refine (Logged.gives_load d bytes options.load).bind fun image _ => ?_
  have hn := Instance.gives_newcomer r.builtins d image r.settings options
  rw [← bind_pure (Instance.newcomer ..)]
  exact Logged.Gives.bind hn fun i _ => .write_bind (Logged.gives_pure i)

lemma newcomer_of_bringUp {journal journal' : Journal}
    (h : create.bringUp d bytes options r journal = .ok i journal') :
    r.newcomer d bytes options = .ok i := by
  obtain ⟨_, hg⟩ := gives_newcomer r d bytes options journal
  rw [h] at hg
  cases hn : r.newcomer d bytes options with
  | error err =>
    rw [hn] at hg
    cases hg
  | ok i' =>
    rw [hn] at hg
    cases hg
    rfl

lemma newcomer_eq {image : Image} (ha : Loader.accept bytes options.load = .ok image)
    (ho : Instance.optionsFlaw? image options = none) :
    r.newcomer d bytes options =
      (r.builtins.bind d r.settings.builtinBinding image).map fun bound =>
        ⟨⟨Setup.ofImage d image r.settings, bound⟩,
          Machine.fresh (Setup.ofImage d image r.settings) options.entityCapacity
            (options.recordCells.getD image.parts.entityCells.toNat)⟩ := by
  rw [newcomer, ha]
  change Instance.newcomer r.builtins d image r.settings options = _
  rw [Instance.newcomer, ho]
  cases r.builtins.bind d r.settings.builtinBinding image <;> rfl

lemma newcomer_eq_ok (h : r.newcomer d bytes options = .ok i) :
    ∃ image bound, Loader.accept bytes options.load = .ok image ∧
      Instance.optionsFlaw? image options = none ∧
      r.builtins.bind d r.settings.builtinBinding image = .ok bound ∧
      i = ⟨⟨Setup.ofImage d image r.settings, bound⟩,
        Machine.fresh (Setup.ofImage d image r.settings) options.entityCapacity
          (options.recordCells.getD image.parts.entityCells.toNat)⟩ := by
  cases ha : Loader.accept bytes options.load with
  | error err =>
    rw [newcomer, ha] at h
    cases h
  | ok image =>
    cases ho : Instance.optionsFlaw? image options with
    | some flaw =>
      rw [newcomer, ha] at h
      change Instance.newcomer r.builtins d image r.settings options = _ at h
      rw [Instance.newcomer, ho] at h
      cases h
    | none =>
      rw [newcomer_eq ha ho] at h
      cases hb : r.builtins.bind d r.settings.builtinBinding image with
      | error err =>
        rw [hb] at h
        cases h
      | ok bound =>
        rw [hb] at h
        cases h
        exact ⟨image, bound, rfl, ho, hb, rfl⟩

lemma newcomer_mono (hs : r'.settings = r.settings) (hb : r'.builtins.Extends r.builtins)
    (h : r.newcomer d bytes options = .ok i) : r'.newcomer d bytes options = .ok i := by
  obtain ⟨image, bound, ha, ho, hbind, rfl⟩ := newcomer_eq_ok h
  rw [newcomer_eq ha ho, hs, hb.bind hbind]
  rfl

lemma created_of_newcomer (h : r.newcomer d bytes options = .ok i) : i.Created := by
  obtain ⟨image, bound, ha, ho, hb, rfl⟩ := newcomer_eq_ok h
  obtain ⟨journal', hup⟩ := Instance.bringUp_of_bind ho hb #[]
  exact ⟨bytes, image, Loader.decode_of_accept ha, _, _, _, _, _, _, hup⟩

lemma domain_of_newcomer (h : r.newcomer d bytes options = .ok i) :
    i.linked.setup.domain = d := by
  obtain ⟨image, bound, -, -, -, rfl⟩ := newcomer_eq_ok h
  rfl

lemma bind_of_newcomer (h : r.newcomer d bytes options = .ok i) :
    i.linked.setup.settings = r.settings ∧
    r.builtins.bind i.linked.setup.domain i.linked.setup.settings.builtinBinding
      i.linked.setup.image = .ok i.linked.bound := by
  obtain ⟨image, bound, -, -, hb, rfl⟩ := newcomer_eq_ok h
  exact ⟨rfl, hb⟩

/-- Bringing up an instance once more would give one that this instance descends from. -/
def BroughtUp (r : Registry) (d : Domain) (bytes : Bytes) (options : InstanceOptions)
    (i : Instance) : Prop :=
  ∃ first, r.newcomer d bytes options = .ok first ∧ i.Descends first

lemma broughtUp_newcomer (h : r.newcomer d bytes options = .ok i) :
    BroughtUp r d bytes options i := by
  refine ⟨i, h, rfl, rfl, (created_of_newcomer h).atHost, ?_⟩
  obtain ⟨image, bound, -, -, -, rfl⟩ := newcomer_eq_ok h
  rfl

lemma BroughtUp.mono (h : BroughtUp r d bytes options i) (hs : r'.settings = r.settings)
    (hb : r'.builtins.Extends r.builtins) : BroughtUp r' d bytes options i := by
  obtain ⟨first, hf, hd⟩ := h
  exact ⟨first, newcomer_mono hs hb hf, hd⟩

lemma BroughtUp.serve (h : BroughtUp r d bytes options i) {α : Type} (code : Host α)
    (journal : Journal) :
    BroughtUp r d bytes options (Instance.serve code ⟨i, journal⟩).2.state := by
  obtain ⟨first, hf, hd⟩ := h
  exact ⟨first, hf, hd.serve (created_of_newcomer hf).checked code journal⟩

namespace Effect

variable {op : Op}

lemma settings_eq (h : Effect r op r') : r'.settings = r.settings := by
  cases h <;> rfl

lemma builtins_extends (h : Effect r op r') : r'.builtins.Extends r.builtins := by
  cases h with
  | registered ho hb => exact BuiltinTable.extends_register hb
  | _ => exact fun _ _ hb => hb

lemma remains (h : Effect r op r') (ho : op ≠ .destroy d) (hi : r.instances.get d = some i) :
    ∃ i', r'.instances.get d = some i' := by
  have hset {e : Domain} (j : Instance) : ∃ i', (r.instances.set e (some j)).get d = some i' := by
    by_cases he : d = e
    · subst he
      exact ⟨j, PerDomain.get_set ..⟩
    · exact ⟨i, (PerDomain.get_set_of_ne _ _ he).trans hi⟩
  cases h with
  | created _ hn hb => exact hset _
  | @destroyed e he =>
    have hne : d ≠ e := by
      rintro rfl
      exact ho he
    exact ⟨i, (PerDomain.get_set_of_ne _ _ hne).trans hi⟩
  | served ht hj code journal => exact hset _
  | _ => exact ⟨i, hi⟩

lemma origin (h : Effect r op r') (hi' : r'.instances.get d = some i') :
    (∃ i, r.instances.get d = some i ∧ ∀ bytes options,
      BroughtUp r d bytes options i → BroughtUp r' d bytes options i') ∨
    r.instances.get d = none ∧ ∃ bytes options, BroughtUp r' d bytes options i' := by
  have hkept (hi : r.instances.get d = some i') : ∃ i, r.instances.get d = some i ∧
      ∀ bytes options, BroughtUp r d bytes options i → BroughtUp r' d bytes options i' :=
    ⟨i', hi, fun _ _ hb => hb.mono h.settings_eq h.builtins_extends⟩
  have hset := h.settings_eq
  have hext := h.builtins_extends
  cases h with
  | @created e bytes options j journal journal' ho hn hb =>
    by_cases he : d = e
    · subst he
      obtain rfl := Option.some.inj ((PerDomain.get_set ..).symm.trans hi')
      have hb := broughtUp_newcomer (newcomer_of_bringUp hb)
      exact .inr ⟨hn, bytes, options, hb.mono hset hext⟩
    · exact .inl (hkept ((PerDomain.get_set_of_ne _ _ he).symm.trans hi'))
  | @destroyed e ho =>
    by_cases he : d = e
    · subst he
      simp at hi'
    · exact .inl (hkept ((PerDomain.get_set_of_ne _ _ he).symm.trans hi'))
  | @served e j α ht hj code journal =>
    by_cases he : d = e
    · subst he
      -- What the host does with an instance leaves its links and sizes.
      obtain rfl := Option.some.inj ((PerDomain.get_set ..).symm.trans hi')
      exact .inl ⟨j, hj, fun _ _ hb => (hb.serve code journal).mono hset hext⟩
    · exact .inl (hkept ((PerDomain.get_set_of_ne _ _ he).symm.trans hi'))
  | _ => exact .inl (hkept hi')

end Effect

variable {s : Recorded Registry}

lemma broughtUp_after (hi : s.state.instances.get d = some i)
    (hb : BroughtUp s.state d bytes options i) {ops : List Op} (ho : Op.destroy d ∉ ops) :
    ∃ i', (after s ops).state.instances.get d = some i' ∧
      BroughtUp (after s ops).state d bytes options i' := by
  induction ops generalizing s i with
  | nil => exact ⟨i, hi, hb⟩
  | cons op ops ih =>
    obtain ⟨hop, hops⟩ := not_or.mp (mt List.mem_cons.mpr ho)
    obtain ⟨i', hi'⟩ := (effect_run s op).remains (Ne.symm hop) hi
    rcases (effect_run s op).origin hi' with ⟨j, hj, hkeep⟩ | ⟨hn, -⟩
    · obtain rfl := Option.some.inj (hi.symm.trans hj)
      exact ih hi' (hkeep bytes options hb) hops
    · rw [hi] at hn
      cases hn

def Populated (r : Registry) : Prop :=
  ∀ d i, r.instances.get d = some i → ∃ bytes options, BroughtUp r d bytes options i

lemma populated_fresh (settings : Settings) : (fresh settings).Populated := by
  intro d i hi
  cases d <;> cases hi

lemma Populated.after (hs : s.state.Populated) (ops : List Op) : (after s ops).state.Populated := by
  induction ops generalizing s with
  | nil => exact hs
  | cons op ops ih =>
    refine ih fun d i' hi' => ?_
    rcases (effect_run s op).origin hi' with ⟨i, hi, hkeep⟩ | ⟨-, hb⟩
    · obtain ⟨bytes, options, hb⟩ := hs d i hi
      exact ⟨bytes, options, hkeep bytes options hb⟩
    · exact hb

lemma settings_after (s : Recorded Registry) (ops : List Op) :
    (after s ops).state.settings = s.state.settings := by
  induction ops generalizing s with
  | nil => rfl
  | cons op ops ih => exact (ih _).trans (effect_run s op).settings_eq

section Create

variable (hn : s.state.instances.get d = none)

include hn

lemma run_create : ((Op.create d bytes options).run s).1 =
    (s.state.newcomer d bytes options).map fun _ => () := by
  obtain ⟨r, journal⟩ := s
  obtain ⟨journal', hg⟩ := gives_newcomer r d bytes options journal
  have hc : r.contains d = false := by simpa [contains] using hn
  simp only [Op.run, settle, create, hc, hg]
  cases r.newcomer d bytes options <;> rfl

lemma run_create_ok (h : s.state.newcomer d bytes options = .ok i) :
    ((Op.create d bytes options).run s).1 = .ok () ∧
    ((Op.create d bytes options).run s).2.state =
      { s.state with instances := s.state.instances.set d (some i) } := by
  refine ⟨by rw [run_create hn, h]; rfl, ?_⟩
  obtain ⟨r, journal⟩ := s
  obtain ⟨journal', hg⟩ := gives_newcomer r d bytes options journal
  have hc : r.contains d = false := by simpa [contains] using hn
  simp only [h] at hg
  simp [Op.run, settle, create, hc, hg]

end Create

lemma broughtUp_create (h : ((Op.create d bytes options).run s).1 = .ok ()) :
    ∃ i, ((Op.create d bytes options).run s).2.state.instances.get d = some i ∧
      BroughtUp ((Op.create d bytes options).run s).2.state d bytes options i := by
  have hfree : s.state.instances.get d = none := by
    obtain ⟨r, journal⟩ := s
    by_contra hi
    have hc : r.contains d = true := Option.isSome_iff_ne_none.mpr hi
    simp [Op.run, settle, create, hc] at h
  cases hn : s.state.newcomer d bytes options with
  | error err =>
    rw [run_create hfree, hn] at h
    cases h
  | ok i =>
    have hstate := (run_create_ok hfree hn).2
    have hext : ((Op.create d bytes options).run s).2.state.builtins.Extends s.state.builtins :=
      (effect_run s _).builtins_extends
    refine ⟨i, ?_, (broughtUp_newcomer hn).mono (effect_run s _).settings_eq hext⟩
    rw [hstate]
    exact PerDomain.get_set ..

end Registry

end GameVm
