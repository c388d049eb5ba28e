import GameVm.Proofs.CallingConvention
import GameVm.Proofs.World

/-! The null cell holds zero until something writes it, and nothing keeps a program from that. -/

namespace GameVm

def Machine.NullZero (m : Machine) : Prop := m.memory.globals.cells[Slots.null]? = some 0

instance (m : Machine) : Decidable m.NullZero :=
  inferInstanceAs (Decidable (_ = some (0 : Cell)))

/-- The null cell is among the cells that the request, the statement or the parameters of the
function that is entered are written to. -/
def Moment.writesNull (setup : Setup) : Moment → Bool
  | .asked (.memory (.writeGlobals pos cells)) _ => pos = Slots.null && cells ≠ []
  | .dispatched st m =>
    ⟨.globals, Slots.null⟩ ∈ (Action.ofOpcode st.op).destination setup st m.memory
  | .pushed function _ => (setup.image.function? function).any fun entry =>
    entry.parmStart = 0 && entry.parms ≠ []
  | .asked .. | .due _ | .hosted .. | .ended .. => false

namespace Exec

variable {setup : Setup} {m : Machine} {st : Statement}

lemma perform_nullCell (hc : setup.Checked) (hm : m.memory.Fits setup) {action : Action}
    (hd : ⟨.globals, Slots.null⟩ ∉ action.destination setup st m.memory) :
    Yields (perform setup st action) m fun flow m' => (m.NullZero → m'.NullZero) ∨
      (flow = .returned ∧ action = .leave) ∨
      (flow = .running ∧ m.context.depth < m'.context.depth) := by
  cases hctl : action.isControl with
  | false =>
    refine yields_mono (perform_carriedOut hm.whole hctl) fun flow m' h => .inl fun hz => ?_
    exact (h.memory.outside ⟨.globals, Slots.null⟩ hd).trans hz
  | true =>
    cases action with
    | leave =>
      apply ends_bind
      refine yields_leaveResult fun globals => ?_
      apply ends_bind
      exact ends_onFrames (fun _ _ _ => .inr (.inl ⟨rfl, rfl⟩)) fun _ _ _ => trivial
    | branch whenSet =>
      apply ends_bind
      apply yields_cell
      split
      · exact yields_jump fun _ => .inl id
      · exact ends_next (.inl id)
    | goto => exact yields_jump fun _ => .inl id
    | call argc =>
      apply ends_bind
      apply yields_cell
      dsimp only
      split
      · exact ends_pure (.inl id)
      · apply ends_bind
        rw [Ends]
        rcases enter_cases hc hm (m.memory.cellAt st.a.toNat).toNat with
          ⟨fault, he, -⟩ | ⟨entry, globals, -, -, -, -, -, he⟩
        · rw [he]
          trivial
        · rw [he]
          refine .inr (.inr ⟨rfl, ?_⟩)
          simp [Machine.enter, Context.pushed, Context.depth, Context.setStatement]
    | _ => cases hctl

lemma dispatch_nullCell (hc : setup.Checked) (hm : m.memory.Fits setup)
    (hw : (Moment.dispatched st m).writesNull setup = false) {flow : Flow} {m' : Machine}
    (hd : dispatch setup st m = .ok flow m') : (m.NullZero → m'.NullZero) ∨
      (flow = .returned ∧ Action.ofOpcode st.op = .leave) ∨
      (flow = .running ∧ m.context.depth < m'.context.depth) := by
  have hy : Yields (dispatch setup st) m _ := perform_nullCell hc hm (of_decide_eq_false hw)
  rw [Yields, Ends, hd] at hy
  exact hy

end Exec

namespace Machine.NullZero

variable {setup : Setup} {m : Machine} {base : Context} {ps : List Push} {p : Push}

lemma entered (hz : m.NullZero) {function : Nat} {entry : FunctionEntry} {c : Context}
    {globals : Globals} (hf : setup.image.function? function = some entry)
    (hp : Context.push function entry (m.context, m.memory.globals) = .ok () (c, globals))
    (hw : (Moment.pushed function m).writesNull setup = false) :
    (m.enter function entry globals).NullZero := by
  have hcopy := Context.copyParms_of_push hp
  by_cases hstart : entry.parmStart = 0
  · obtain hparms : entry.parms = [] := by simpa [Moment.writesNull, hf, hstart] using hw
    rw [hparms] at hcopy
    cases hcopy
    exact hz
  · have hpos : Slots.null < entry.parmStart.toNat :=
      Nat.pos_of_ne_zero fun h => hstart (UInt32.toNat_inj.mp h)
    have hbelow := (Context.copyParms_below 0 entry.parmStart.toNat entry.parms m.memory.globals).2
    rw [leftBy_of_ok hcopy] at hbelow
    exact (hbelow _ hpos).trans hz

lemma restored {n : Nat} (hfits : ∀ p ∈ ps, p.Fits n) {g : Globals} (hg : g.cells.size = n)
    (hz : g.cells[Slots.null]? = some 0) (hps : ∀ p ∈ ps, p.machine.NullZero) :
    (Push.restore ps g).cells[Slots.null]? = some 0 := by
  rw [Push.getElem?_restore hfits hg]
  cases hfind : ps.find? (fun p => p.frame.Covers Slots.null) with
  | none => exact hz
  | some p => exact hps p (List.mem_of_find?_eq_some hfind)

lemma returned (hc : setup.Checked) (hs : m.InCall setup base (ps ++ [p])) (hz : m.NullZero)
    (hps : p.machine.NullZero) {st : Statement}
    (hw : (Moment.dispatched st m).writesNull setup = false) {m' : Machine}
    (hd : Exec.dispatch setup st m = .ok .returned m') : m'.NullZero := by
  rcases Exec.dispatch_nullCell hc hs.sound.memory hw hd with h | ⟨-, hl⟩ | ⟨hf, -⟩
  · exact h hz
  · rw [hs.dispatch_leave hc hl] at hd
    cases hd
    have hsize := m.memory.globals.size_withResult st.a.toNat
    have hz' : (m.memory.globals.withResult st.a.toNat).cells[Slots.null]? = some 0 := by
      rw [Globals.withResult]
      split_ifs
      · exact hz
      · exact (Cells.getElem?_write_of_lt _ _ (by decide)).trans hz
    rw [NullZero, (hs.returned hsize).2.2]
    exact restored (by simpa using hs.grown.fits p (by simp)) (hsize.trans hs.sound.memory.globals)
      hz' (by simpa using hps)
  · cases hf

end Machine.NullZero

lemma MemoryOp.apply_null {setup : Setup} {memory : Memory} {m : Machine} (op : MemoryOp)
    (hw : (Moment.asked (.memory op) m).writesNull setup = false) :
    (op.apply memory).2.globals.cells[Slots.null]? = memory.globals.cells[Slots.null]? := by
  cases op with
  | writeGlobals pos cells =>
    simp only [apply, settle, Memory.onGlobals, Globals.write]
    split_ifs
    · by_cases hp : pos = Slots.null
      · obtain rfl : cells = [] := by simpa [Moment.writesNull, hp] using hw
        rfl
      · exact Cells.getElem?_write_of_lt _ _ (Nat.pos_of_ne_zero hp)
    · rfl
  | writeField entity field cells =>
    simp only [apply, settle, Memory.onEntities]
    cases Entities.setField entity field cells memory.entities <;> rfl
  | storeEntity byte cells =>
    simp only [apply, settle, Memory.onEntities]
    cases Entities.store byte cells memory.entities <;> rfl
  | allocEntity now =>
    simp only [apply, settle, Memory.onEntities]
    cases Entities.alloc now memory.entities <;> rfl
  | freeEntity entity now =>
    simp only [apply, settle, Memory.onEntities]
    cases Entities.free entity now memory.entities <;> rfl
  | release handle =>
    simp only [apply, settle, Memory.onStrings]
    cases StringTable.release handle memory.strings <;> rfl
  | clearEntities | newScratch bytes | persist bytes | resetStrings => rfl

namespace Call

variable {setup : Setup} {label : String} {op : HostOp} {s s' s'' : Recorded Machine}
  {h h' : History}

lemma answer_null (hi : setup.image.parts.globals[Slots.null]? = some 0)
    (hm : s.state.memory.Fits setup) (ht : target? label s.state op = none) (hz : s.state.NullZero)
    (hw : (Moment.asked op s.state).writesNull setup = false) :
    (answer noCalls setup label op s).2.state.NullZero := by
  cases op with
  | memory op => exact (op.apply_null hw).trans hz
  | reset =>
    cases hr : s.state.context.isRunning with
    | true => simpa [answer, settle, reset, hr] using hz
    | false =>
      simpa [answer, settle, reset, hr, Machine.NullZero, Machine.restart, Machine.resetProfile,
        Globals.reset_eq hm.globals] using hi
  | call function =>
    cases hp : s.state.context.pending with
    | none => simp [target?, hp] at ht
    | some err => simpa [answer, hp] using hz
  | execute function caller => cases ht
  | look | resetProfile | note text => exact hz

lemma ready_null (setup : Setup) (st : Statement) (hz : s.state.NullZero) :
    (ready setup st s).state.NullZero := by
  rw [Machine.NullZero, ready_memory]
  exact hz

lemma raisePending_null {r r' : Except VmError Unit} (hr : settle (raisePending r) s = (r', s'))
    (hz : s.state.NullZero) : s'.state.NullZero := by
  rcases raisePending_cases hr with ⟨err, -, -, rfl⟩ | ⟨-, -, rfl⟩ <;> exact hz

/-- The null cell holds zero at every moment up to the first that writes it, and at the end if
none does. -/
def ZeroUntilWritten (setup : Setup) : History → Machine → Prop
  | [], m => m.NullZero
  | moment :: h, m => moment.machine.NullZero ∧
    (moment.writesNull setup = false → ZeroUntilWritten setup h m)

namespace ZeroUntilWritten

variable {m m' : Machine}

lemma at_moment {moment : Moment} (hh : ZeroUntilWritten setup (h ++ moment :: h') m)
    (hw : ∀ earlier ∈ h, earlier.writesNull setup = false) : moment.machine.NullZero := by
  induction h with
  | nil => exact hh.1
  | cons first h ih =>
    obtain ⟨hfirst, hrest⟩ := List.forall_mem_cons.mp hw
    exact ih (hh.2 hfirst) hrest

lemma last (hh : ZeroUntilWritten setup h m)
    (hw : ∀ moment ∈ h, moment.writesNull setup = false) : m.NullZero := by
  induction h with
  | nil => exact hh
  | cons first h ih =>
    obtain ⟨hfirst, hrest⟩ := List.forall_mem_cons.mp hw
    exact ih (hh.2 hfirst) hrest

lemma append (hh : ZeroUntilWritten setup h m)
    (hn : m.NullZero → ZeroUntilWritten setup h' m') : ZeroUntilWritten setup (h ++ h') m' := by
  induction h with
  | nil => exact hn hh
  | cons first h ih => exact ⟨hh.1, fun hw => ih (hh.2 hw)⟩

lemma mono (hh : ZeroUntilWritten setup h m)
    (hm : (∀ moment ∈ h, moment.machine.NullZero) → m.NullZero → m'.NullZero) :
    ZeroUntilWritten setup h m' := by
  induction h with
  | nil => exact hm (by simp) hh
  | cons first h ih =>
    refine ⟨hh.1, fun hw => ih (hh.2 hw) fun hrest => hm ?_⟩
    exact List.forall_mem_cons.mpr ⟨hh.1, hrest⟩

lemma fetched {st : Statement} (hs : s.state.NullZero)
    (hh : (Moment.dispatched st (ready setup st s).state).writesNull setup = false →
      ZeroUntilWritten setup h m) :
    ZeroUntilWritten setup (.due s.state :: .dispatched st (ready setup st s).state :: h) m :=
  ⟨hs, fun _ => ⟨ready_null setup st hs, hh⟩⟩

lemma nested {op : HostOp} {r : Except VmError Unit} (hs : s.state.NullZero)
    (hc : ZeroUntilWritten setup h s'.state)
    (hh : s'.state.NullZero → ZeroUntilWritten setup h' m) :
    ZeroUntilWritten setup (.asked op s.state :: (h ++ .ended r s'.state :: h')) m :=
  ⟨hs, fun _ => hc.append fun hz => ⟨hz, fun _ => hh hz⟩⟩

end ZeroUntilWritten

section Pushes

lemma mem_of_lastPush {height function : Nat} {m : Machine} {h : History}
    (hp : h.lastPush height = some (function, m)) : .pushed function m ∈ h := by
  induction h with
  | nil => cases hp
  | cons moment h ih =>
    cases moment with
    | pushed function' m' =>
      rw [History.lastPush, Option.or_eq_some_iff] at hp
      rcases hp with hp | ⟨-, hp⟩
      · exact List.mem_cons_of_mem _ (ih hp)
      · split_ifs at hp
        cases hp
        exact List.mem_cons_self
    | _ => exact List.mem_cons_of_mem _ (ih hp)

lemma tracks_null {base : Nat} {ps ps' : List Push} (ht : History.Tracks base ps h ps')
    (hh : ∀ moment ∈ h, moment.machine.NullZero) (hps : ∀ p ∈ ps, p.machine.NullZero) :
    ∀ p ∈ ps', p.machine.NullZero := by
  intro p hp
  obtain ⟨k, hk⟩ := List.mem_iff_getElem?.mp hp
  have htk := ht k p hk
  cases hl : h.lastPush (base + k) with
  | some entry =>
    obtain rfl : entry = p.entry := by simpa [hl] using htk
    exact hh _ (mem_of_lastPush hl)
  | none =>
    obtain ⟨q, hq, he⟩ : ∃ q, ps[k]? = some q ∧ q.entry = p.entry := by simpa [hl] using htk
    have hm : q.machine = p.machine := congrArg Prod.snd he
    exact hm ▸ hps q (List.mem_of_getElem? hq)

end Pushes

def KeepsNull (linked : Linked) :
    Activity → Recorded Machine → History → Recorded Machine → Prop
  | .loop _ exitDepth, s, h, s' => ∀ base first rest, base.depth = exitDepth →
    s.state.InCall linked.setup base (first :: rest) →
    (∀ p ∈ first :: rest, p.machine.NullZero) → s.state.NullZero →
    ZeroUntilWritten linked.setup h s'.state
  | .call .., s, h, s' | .builtin .., s, h, s' | .host .., s, h, s' =>
    s.state.AtHost linked.setup → s.state.NullZero → ZeroUntilWritten linked.setup h s'.state

theorem Runs.keepsNull {linked : Linked} (hc : linked.setup.Checked)
    (hi : linked.setup.image.parts.globals[Slots.null]? = some 0) {act : Activity}
    {r : Except VmError Unit} (hr : Runs linked act s h r s') : KeepsNull linked act s h s' := by
  induction hr with
  | @refused function caller s fault m he =>
    intro hs hz
    obtain rfl := enter_error hc hs he
    have hmem := (refused_concluded hs function caller
      (located linked.setup caller fault (mapContext Context.beginCall s).state)).2
    have hsame := congrArg (fun memory : Memory => memory.globals.cells[Slots.null]?) hmem
    exact hsame.trans hz
  | @entered function caller s s' m h r he hl ih =>
    intro hs hz
    rcases Exec.enter_cases hc (inCall_beginCall hs).sound.memory function with
      ⟨fault, he', -⟩ | ⟨entry, globals, hne, hf, hb, hg, hp, he'⟩
    · rw [he'] at he
      cases he
    · rw [he'] at he
      cases he
      have hin := entered_inCall hc hs hne hf hb hg
      have hends := hl.outcome hc _ _ _ (Context.beginCall_depth _) hin
      have hbegun : (mapContext Context.beginCall s).state.NullZero := hz
      refine ⟨hz, fun hw => ?_⟩
      have hloop := ih _ _ _ (Context.beginCall_depth _) hin (by simpa using hbegun)
        (hbegun.entered hf hp hw)
      refine hloop.mono fun hmoments hlast => ?_
      cases r with
      | ok _ => exact hlast
      | error err =>
        -- The frames that are still there are taken off, the outermost last.
        obtain ⟨rest', hgrown, htracks⟩ := hends.failed err rfl
        have hmem := (conclude_error linked.setup function caller hgrown
          hends.sound.memory.globals err).2
        rw [Machine.NullZero, hmem]
        exact Machine.NullZero.restored hgrown.fits hends.sound.memory.globals hlast
          (tracks_null htracks hmoments (by simpa using hbegun))
  | runaway hlimit => exact fun base first rest _ _ _ hz => ⟨hz, fun _ => hz⟩
  | fellOff hlimit hst => exact fun base first rest _ _ _ hz => ⟨hz, fun _ => hz⟩
  | @faulted caller exitDepth s st fault m hf hd =>
    intro base first rest hbase hs hps hz
    obtain ⟨rfl, -⟩ := harmless_of_error hc (dispatched_sound hs hf) hd
    exact .fetched hz fun _ => ready_null linked.setup st hz
  | @advanced caller exitDepth s s' st m h r hf hd hl ih =>
    intro base first rest hbase hs hps hz
    have he := effect_of_ok hc (dispatched_sound hs hf) hd
    have hr := ready_inCall hs st
    have hready := ready_null linked.setup st hz
    refine .fetched hz fun hw => ?_
    rcases pushes_cases hc hr (by simp) (fetches_lt hf) he with
      ⟨hp, hin⟩ | ⟨function, entry, globals, hfn, -, hpush, hp, rfl, hin⟩
    · have hm : m.NullZero := by
        rcases Exec.dispatch_nullCell hc hr.sound.memory hw hd with hkeep | ⟨hret, -⟩ | ⟨-, hlt⟩
        · exact hkeep hready
        · cases hret
        · rw [pushes, if_pos hlt] at hp
          cases hp
      rw [hp]
      exact ih base first rest hbase hin hps hm
    · rw [hp]
      rw [List.cons_append] at hin
      refine ⟨hready, fun hw' => ih base first _ hbase hin ?_ (hready.entered hfn hpush hw')⟩
      rw [← List.cons_append, List.forall_mem_append]
      exact ⟨hps, by simpa using hready⟩
  | @exited caller exitDepth s st m hf hd hx =>
    intro base first rest hbase hs hps hz
    have hr := ready_inCall hs st
    obtain ⟨ps, p, hsplit⟩ := exists_concat first rest
    rw [hsplit] at hr hps
    exact .fetched hz fun hw =>
      (ready_null linked.setup st hz).returned hc hr (hps p (by simp)) hw hd
  | @resumed caller exitDepth s s' st m h r hf hd hx hl ih =>
    intro base first rest hbase hs hps hz
    have he := effect_of_ok hc (dispatched_sound hs hf) hd
    have hr := ready_inCall hs st
    obtain ⟨rest', p, rfl, hin⟩ := resumed_inCall hr he (hbase ▸ hx)
    rw [← List.cons_append] at hr hps
    refine .fetched hz fun hw => ih base first rest' hbase hin (fun q hq => hps q ?_) ?_
    · exact List.mem_append_left _ hq
    · -- only the statement number changes behind the return
      have hm := (ready_null linked.setup st hz).returned hc hr (hps p (by simp)) hw hd
      exact hm
  | @builtinFailed caller exitDepth s s' st m function argc h err hf hd hb ih =>
    intro base first rest hbase hs hps hz
    obtain rfl := builtin_eq (effect_of_ok hc (dispatched_sound hs hf) hd)
    have hr := ready_inCall hs st
    exact .fetched hz fun _ =>
      ih ⟨hr.sound, fun _ => fetches_lt hf⟩ (ready_null linked.setup st hz)
  | @builtinReturned caller exitDepth s s' s'' st m function argc h h' r hf hd hb hl ihb ih =>
    intro base first rest hbase hs hps hz
    obtain rfl := builtin_eq (effect_of_ok hc (dispatched_sound hs hf) hd)
    have hr := ready_inCall hs st
    have hn := hb.outcome hc ⟨hr.sound, fun _ => fetches_lt hf⟩
    have hin := (hr.of_sameStack hn.atHost.toSound hn.stack).setStatement (fetches_lt hf)
    rw [ready_context] at hin
    have hb' := ihb ⟨hr.sound, fun _ => fetches_lt hf⟩ (ready_null linked.setup st hz)
    exact .fetched hz fun _ => hb'.append fun hz' => ih base first rest hbase hin hps hz'
  | unbound hb => exact fun _ hz => hz
  | unavailable hb hd => exact fun _ hz => hz
  | @hosted caller function argc s s' s'' b h r r' hb hd hh hr ih =>
    intro hs hz
    have hstarted := ih (Neutral.started hs function).atHost hz
    exact ⟨hz, fun _ => hstarted.mono fun _ hz' => raisePending_null hr hz'⟩
  | done => exact fun _ hz => hz
  | @answered label op next s s' s'' a h r ht ha hh ih =>
    intro hs hz
    have hn := (answer_neutral hs ht ha).1
    refine ⟨hz, fun hw => ih hn.atHost ?_⟩
    have hz' := answer_null hi hs.memory ht hz hw
    rw [ha] at hz'
    exact hz'
  | called hp hc' hh ihc ih =>
    intro hs hz
    exact .nested hz (ihc hs hz) (ih (hc'.outcome hc hs).atHost)
  | executed hc' hh ihc ih =>
    intro hs hz
    exact .nested hz (ihc hs hz) (ih (hc'.outcome hc hs).atHost)

section Host

variable {reenter : Nat → String → Call Unit} {nested : Nat → String → Recorded Machine → History}

lemma host_zeroUntilWritten {α : Type} (hi : setup.image.parts.globals[Slots.null]? = some 0)
    (hcall : ∀ function caller s, s.state.AtHost setup →
      Neutral setup s (nested function caller s) (settle (reenter function caller) s).2)
    (hzero : ∀ function caller s, s.state.AtHost setup → s.state.NullZero →
      ZeroUntilWritten setup (nested function caller s)
        (settle (reenter function caller) s).2.state)
    (label : String) (code : Host α) (s : Recorded Machine) (hs : s.state.AtHost setup)
    (hz : s.state.NullZero) :
    ZeroUntilWritten setup (hostHistory reenter nested setup label code s)
      (host reenter setup label code s).2.state := by
  induction code generalizing s with
  | done a => exact hz
  | ask op next ih =>
    cases ht : target? label s.state op with
    | none =>
      have ha := answer_eq_noCalls reenter setup ht
      have hn := (answer_neutral hs ht rfl).1
      simp only [hostHistory, host, ht, ha]
      exact ⟨hz, fun hw => ih _ _ hn.atHost (answer_null hi hs.memory ht hz hw)⟩
    | some target =>
      obtain ⟨function, caller⟩ := target
      have hn := hcall function caller s hs
      simp only [hostHistory, host, ht, answer_of_target ht, List.append_assoc,
        List.singleton_append]
      exact .nested hz (hzero function caller s hs hz) fun hz' => ih _ _ hn.atHost hz'

end Host

end Call

namespace Instance

lemma Created.null_start {i : Instance} (h : i.Created)
    (hz : i.linked.setup.image.parts.globals[Slots.null]? = some 0) : i.machine.NullZero := by
  obtain ⟨bytes, image, hd, table, domain, settings, options, journal, journal', hb⟩ := h
  obtain ⟨hs, recordCells, hr, hm⟩ := bringUp_eq_ok hb
  rw [hm]
  exact hz

lemma Created.zeroUntilWritten {i : Instance} (h : i.Created)
    (hz : i.linked.setup.image.parts.globals[Slots.null]? = some 0) {α : Type} (code : Host α)
    (journal : Journal) :
    Call.ZeroUntilWritten i.linked.setup (i.history code journal)
      (Call.host (Call.execute i.linked) i.linked.setup "host" code
        ⟨i.machine, journal⟩).2.state := by
  have hrun (function : Nat) (caller : String) (s : Recorded Machine)
      (hs : s.state.AtHost i.linked.setup) := Call.execute_runs h.checked hs function caller
  exact Call.host_zeroUntilWritten hz
    (fun function caller s hs => (hrun function caller s hs).outcome h.checked hs)
    (fun function caller s hs hz' => (hrun function caller s hs).keepsNull h.checked hz hs hz')
    "host" code _ h.atHost (h.null_start hz)

/-- The null cell of a program that starts with zero in it can be relied on until the host or the
program writes it. -/
theorem null_cell_zero_until_written {i : Instance} (hi : i.Created)
    (hz : i.linked.setup.image.parts.globals[Slots.null]? = some 0) {α : Type} (code : Host α)
    (journal : Journal) :
    (∀ before moment since, i.history code journal = before ++ moment :: since →
      (∀ earlier ∈ before, earlier.writesNull i.linked.setup = false) →
      moment.machine.NullZero) ∧
    ((∀ moment ∈ i.history code journal, moment.writesNull i.linked.setup = false) →
      (Call.host (Call.execute i.linked) i.linked.setup "host" code
        ⟨i.machine, journal⟩).2.state.NullZero) := by
  have hh := hi.zeroUntilWritten hz code journal
  constructor
  · intro before moment since hsplit hw
    rw [hsplit] at hh
    exact hh.at_moment hw
  · exact hh.last

end Instance

/-! A program that stores one in the null cell and copies the null cell to another. -/

namespace NullStore

def parts : Parts where
  entityCells := 1
  statements := #[⟨.done, 0, 0, 0⟩, ⟨.storeF, 28, 0, 0⟩, ⟨.storeF, 0, 29, 0⟩, ⟨.done, 0, 0, 0⟩]
  globalDefs := #[]
  fieldDefs := #[]
  functions := #[{}, { first := 1, parmStart := 28, name := 1 }]
  strings := "\x00main\x00".toUTF8.toList.toArray
  globals := Array.replicate 28 0 ++ #[0x3F800000, 0]

def setup : Setup := Setup.ofImage .server (Image.ofParts parts) { maxInstructions := 100 }

def scribe : Instance where
  linked := ⟨setup, #[none, none]⟩
  machine := Machine.fresh setup 4 (Image.ofParts parts).parts.entityCells.toNat

def session : Host Unit := .ask (.execute 1 "host") fun _ => .done ()

lemma created : scribe.Created := by
  have hlt : parts.encode.length < 2 ^ 32 := by decide +kernel
  have hc : parts.check = .ok () := by decide +kernel
  have ho : Instance.optionsFlaw? (Image.ofParts parts) { entityCapacity := 4 } = none := by
    decide +kernel
  have hbind : BuiltinTable.empty.bind .server .strict (Image.ofParts parts) =
      .ok #[none, none] := rfl
  exact Instance.created_of_check hlt hc ho hbind

def onlyCalls : Moment → Bool
  | .asked (.execute function caller) _ => function = 1 && caller = "host"
  | .asked .. => false
  | _ => true

theorem zero_before_store :
    scribe.Created ∧ setup.image.parts.globals[Slots.null]? = some 0 ∧
    ∃ before moment since, scribe.history session #[] = before ++ moment :: since ∧
      (∀ earlier ∈ before, earlier.writesNull setup = false) ∧
      moment.writesNull setup = true ∧ moment.machine.NullZero := by
  have hz : setup.image.parts.globals[Slots.null]? = some 0 := rfl
  have hsome : ((scribe.history session #[]).find? (·.writesNull setup)).isSome = true := by
    decide +kernel
  obtain ⟨moment, hfind⟩ := Option.isSome_iff_exists.mp hsome
  obtain ⟨hw, before, since, hsplit, hbefore⟩ := List.find?_eq_some_iff_append.mp hfind
  have hbefore : ∀ earlier ∈ before, earlier.writesNull setup = false := by simpa using hbefore
  have hzero := (Instance.null_cell_zero_until_written created hz session #[]).1 before moment
    since hsplit hbefore
  exact ⟨created, hz, before, moment, since, hsplit, hbefore, hw, hzero⟩

/-- The host asks for nothing but the call, and the null cell holds one afterwards. -/
theorem program_overwrites_null_cell :
    scribe.Created ∧ setup.image.parts.globals[Slots.null]? = some 0 ∧
    (∀ moment ∈ scribe.history session #[], onlyCalls moment = true) ∧
    (∃ moment ∈ scribe.history session #[],
      moment.machine.memory.globals.cells[Slots.null]? = some 0x3F800000) ∧
    (Call.host (Call.execute scribe.linked) setup "host" session
      ⟨scribe.machine, #[]⟩).2.state.memory.globals.cells[Slots.null]? = some 0x3F800000 := by
  refine ⟨created, rfl, ?_, ?_, by decide +kernel⟩
  · have hall : (scribe.history session #[]).all onlyCalls = true := by decide +kernel
    simpa using hall
  · have hsome : (scribe.history session #[]).any (fun moment =>
        moment.machine.memory.globals.cells[Slots.null]? = some 0x3F800000) = true := by
      decide +kernel
    simpa using hsome

end NullStore

end GameVm
