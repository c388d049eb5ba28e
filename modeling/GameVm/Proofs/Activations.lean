import GameVm.Proofs.Progress
import GameVm.Proofs.World

/-! Activations: the functions that are running at any point of a run, and the statements that they
stand at, as the history of the run tells it. The stack of the machine agrees with it. -/

namespace GameVm

/-- A function that has been entered, with the number of the statement it has dispatched last. -/
structure Activation where
  function : Nat
  last : Option Nat
  deriving DecidableEq

def Activation.Calls (image : Image) (a : Activation) (statement : Nat) : Prop :=
  a.last = some statement ∧
    ∃ st, image.parts.statements[statement]? = some st ∧ st.op.argCount?.isSome

/-- The activations after a moment. Those that have ended since the moment before are left out. -/
def Moment.follow (running : List Activation) (moment : Moment) : List Activation :=
  match moment with
  | .pushed function m => running.take m.context.depth ++ [⟨function, none⟩]
  | .dispatched _ m => (running.take m.context.depth).modify (m.context.depth - 1)
      fun a => { a with last := some m.context.statement }
  | .asked _ m | .due m | .hosted _ m | .ended _ m => running.take m.context.depth

/-- The activations that a history has brought to a machine, the outermost first. -/
def History.activations (h : History) (m : Machine) : List Activation :=
  (h.foldl Moment.follow []).take m.context.depth

/-- The activations are those of the frames, and every frame but the first is due to a call that the
activation below it had dispatched. -/
structure Context.Chained (image : Image) (as : List Activation) (c : Context) : Prop where
  functions : as.map (·.function) = c.frames.toList.map (·.function)
  callers : ∀ k a frame, as[k]? = some a → c.frames[k + 1]? = some frame →
    a.Calls image frame.callerStatement

def Context.AtCall (image : Image) (as : List Activation) (c : Context) : Prop :=
  ∀ a ∈ as.getLast?, a.Calls image c.statement

namespace Context.Chained

variable {image : Image} {as : List Activation} {c c' : Context}

lemma nil (hf : c.frames = #[]) : Chained image [] c :=
  ⟨by simp [hf], by simp⟩

lemma length (h : Chained image as c) : as.length = c.depth := by
  simpa [Context.depth] using congrArg List.length h.functions

lemma take_depth (h : Chained image as c) : as.take c.depth = as :=
  List.take_of_length_le h.length.le

lemma of_frames (h : Chained image as c) (hf : c'.frames = c.frames) : Chained image as c' :=
  ⟨hf ▸ h.functions, hf ▸ h.callers⟩

lemma dispatched (h : Chained image as c) (statement : Nat) :
    Chained image (as.modify (c.depth - 1) fun a => { a with last := some statement }) c := by
  constructor
  · rw [← h.functions]
    refine List.ext_getElem? fun k => ?_
    rw [List.getElem?_map, List.getElem?_map, List.getElem?_modify]
    cases as[k]? with
    | none => simp
    | some a => by_cases hk : c.depth - 1 = k <;> simp [hk]
  · intro k a frame ha hf
    have hlt : k + 1 < c.depth := (Array.getElem?_eq_some_iff.mp hf).1
    have hk : c.depth - 1 ≠ k := by omega
    exact h.callers k a frame (by simpa [List.getElem?_modify, hk] using ha) hf

lemma pushed (h : Chained image as c) (ht : c.AtCall image as) (function : Nat)
    (entry : FunctionEntry) (globals : Globals) :
    Chained image (as ++ [⟨function, none⟩]) (c.pushed function entry globals) := by
  constructor
  · simp [Context.pushed, Context.newFrame, h.functions]
  · intro k a frame ha hf
    have hl := h.length
    have hlt : k + 1 < c.depth + 1 := by
      simpa [Context.pushed, Context.depth] using (Array.getElem?_eq_some_iff.mp hf).1
    rw [List.getElem?_append_left (by omega)] at ha
    by_cases hk : k + 1 = c.depth
    · obtain rfl : c.newFrame function entry = frame := by
        simpa [Context.pushed, hk, Context.depth] using hf
      refine ht a ?_
      rw [List.getLast?_eq_getElem?, show as.length - 1 = k by omega]
      exact ha
    · refine h.callers k a frame ha ?_
      have hk' : k + 1 ≠ c.frames.size := hk
      simpa [Context.pushed, Array.getElem?_push, hk'] using hf

lemma entered {m : Machine} (h : m.context.Chained image as) (ht : m.context.AtCall image as)
    (function : Nat) (entry : FunctionEntry) (globals : Globals) :
    (m.enter function entry globals).context.Chained image (as ++ [⟨function, none⟩]) :=
  (h.pushed ht function entry m.memory.globals).of_frames rfl

lemma take (h : Chained image as c) {n : Nat} (hf : c'.frames.toList = c.frames.toList.take n) :
    Chained image (as.take n) c' := by
  constructor
  · rw [hf, List.map_take, List.map_take, h.functions]
  · intro k a frame ha hframe
    rw [← Array.getElem?_toList, hf, List.getElem?_take] at hframe
    rw [List.getElem?_take] at ha
    split_ifs at ha hframe
    exact h.callers k a frame ha (by simpa using hframe)

lemma popped (h : Chained image as c) (frame : Frame) :
    (c.popped frame).Chained image (as.take (c.popped frame).depth) := by
  refine h.take ?_
  rw [Context.popped, Array.toList_pop, List.dropLast_eq_take, Context.depth, Array.size_pop,
    Array.length_toList]

end Context.Chained

/-- The moment belongs to what stands on `depth` frames, which it leaves alone. -/
def Moment.Above (depth : Nat) (moment : Moment) : Prop :=
  depth ≤ moment.machine.context.depth ∧
    (moment.dispatch?.isSome → depth < moment.machine.context.depth)

namespace Moment.Above

variable {depth : Nat} {moment : Moment} {h : History} {as : List Activation}

lemma mono {depth' : Nat} (hm : moment.Above depth) (hd : depth' ≤ depth) : moment.Above depth' :=
  ⟨hd.trans hm.1, fun hs => hd.trans_lt (hm.2 hs)⟩

lemma of_le (hq : moment.dispatch? = none) (hd : depth ≤ moment.machine.context.depth) :
    moment.Above depth :=
  ⟨hd, by simp [hq]⟩

lemma follow (hm : moment.Above depth) (hd : depth ≤ as.length) :
    depth ≤ (moment.follow as).length ∧ (moment.follow as).take depth = as.take depth := by
  obtain ⟨hle, hlt⟩ := hm
  cases moment with
  | dispatched st m =>
    have hlt : depth < m.context.depth := hlt rfl
    simp only [Moment.follow, List.length_modify, List.length_take]
    refine ⟨by omega, List.ext_getElem? fun k => ?_⟩
    simp only [List.getElem?_take]
    by_cases hk : k < depth
    · rw [if_pos hk, if_pos hk, List.getElem?_modify, List.getElem?_take_of_lt (by omega)]
      simp [show m.context.depth - 1 ≠ k by omega]
    · rw [if_neg hk, if_neg hk]
  | pushed function m =>
    have hle : depth ≤ m.context.depth := hle
    have hlen : depth ≤ (as.take m.context.depth).length := by
      rw [List.length_take]
      omega
    simp only [Moment.follow]
    refine ⟨by rw [List.length_append]; omega, ?_⟩
    rw [List.take_append_of_le_length hlen, List.take_take, min_eq_left hle]
  | asked op m | due m | hosted function m | ended r m =>
    have hle : depth ≤ m.context.depth := hle
    simp only [Moment.follow, List.length_take, List.take_take, min_eq_left hle]
    exact ⟨by omega, trivial⟩

lemma foldl_follow (hm : ∀ moment ∈ h, moment.Above depth) (hd : depth ≤ as.length) :
    (h.foldl Moment.follow as).take depth = as.take depth := by
  induction h generalizing as with
  | nil => rfl
  | cons moment h ih =>
    obtain ⟨hfirst, hrest⟩ := List.forall_mem_cons.mp hm
    obtain ⟨hlen, htake⟩ := hfirst.follow hd
    rw [List.foldl_cons, ih hrest hlen, htake]

end Moment.Above

namespace Exec

variable {setup : Setup} {st : Statement} {m m' : Machine} {flow : Flow}

lemma argCount?_eq_some_iff {op : Opcode} {argc : Nat} :
    op.argCount? = some argc ↔ Action.ofOpcode op = .call argc := by
  constructor
  · intro h
    cases op <;> cases h <;> rfl
  · intro h
    cases op <;> cases h <;> rfl

lemma perform_frames (hm : m.memory.entities.Whole) (action : Action) :
    Yields (perform setup st action) m fun flow m' => (∃ argc, action = .call argc) ∨
      flow = .returned ∨ flow = .running ∧ m'.context.frames = m.context.frames := by
  have hjump (operand : UInt16) : Yields (jump setup operand) m fun flow m' =>
      (∃ argc, action = .call argc) ∨
        flow = .returned ∨ flow = .running ∧ m'.context.frames = m.context.frames := by
    apply ends_bind
    apply ends_get
    split
    · split
      · exact .inr (.inr ⟨rfl, rfl⟩)
      · exact ends_throw trivial
    · exact ends_throw trivial
  cases hc : action.isControl with
  | false =>
    refine yields_mono (perform_carriedOut hm hc) fun flow m' h => .inr (.inr ⟨h.flow, ?_⟩)
    rw [h.context]
    rfl
  | true =>
    cases action with
    | leave =>
      apply ends_bind
      refine yields_leaveResult fun globals => ?_
      apply ends_bind
      exact ends_onFrames (fun _ _ _ => .inr (.inl rfl)) fun _ _ _ => trivial
    | branch whenSet =>
      apply ends_bind
      apply yields_cell
      split
      · exact hjump _
      · exact ends_next (.inr (.inr ⟨rfl, rfl⟩))
    | goto => exact hjump _
    | call argc => exact yields_of_forall fun _ _ => .inl ⟨argc, rfl⟩
    | _ => cases hc

lemma isCall_of_dispatch (hm : m.memory.entities.Whole) (hd : dispatch setup st m = .ok flow m')
    (hf : (∃ function argc, flow = .builtin function argc) ∨
      flow = .running ∧ m'.context.frames ≠ m.context.frames) :
    st.op.argCount?.isSome := by
  have hy : Yields (perform setup st (.ofOpcode st.op)) m _ := perform_frames hm _
  rw [dispatch] at hd
  rw [Yields, Ends, hd] at hy
  rcases hy with ⟨argc, hop⟩ | rfl | ⟨rfl, hsame⟩
  · rw [argCount?_eq_some_iff.mpr hop]
    rfl
  · simp at hf
  · simp [hsame] at hf

end Exec

namespace Call

variable {linked : Linked} {base : Context} {first : Push} {rest : List Push}
  {s s' s'' : Recorded Machine} {h h' : History} {r : Except VmError Unit}

def AboveOutcome (linked : Linked) : Activity → Recorded Machine → History → Prop
  | .loop _ exitDepth, s, h => ∀ base first rest, base.depth = exitDepth →
    s.state.InCall linked.setup base (first :: rest) → ∀ moment ∈ h, moment.Above exitDepth
  | .call .., s, h | .builtin .., s, h | .host .., s, h => s.state.AtHost linked.setup →
    ∀ moment ∈ h, moment.Above s.state.context.depth

lemma above_fetched {st : Statement} (hs : s.state.InCall linked.setup base (first :: rest))
    (hm : ∀ moment ∈ h, moment.Above base.depth) :
    ∀ moment ∈ .due s.state :: .dispatched st (ready linked.setup st s).state :: h,
      moment.Above base.depth := by
  have hlt := hs.lt_depth
  have hready : base.depth < (ready linked.setup st s).state.context.depth := by
    rw [ready_context]
    exact hlt
  simp only [List.forall_mem_cons]
  exact ⟨.of_le rfl hlt.le, ⟨hready.le, fun _ => hready⟩, hm⟩

lemma above_nested {op : HostOp} {d : Nat} (hd : d ≤ s.state.context.depth)
    (hd' : d ≤ s'.state.context.depth) (hm : ∀ moment ∈ h, moment.Above d)
    (hm' : ∀ moment ∈ h', moment.Above d) :
    ∀ moment ∈ Moment.asked op s.state :: (h ++ .ended r s'.state :: h'), moment.Above d := by
  simp only [List.forall_mem_cons, List.forall_mem_append]
  exact ⟨.of_le rfl hd, hm, .of_le rfl hd', hm'⟩

theorem Runs.above (hc : linked.setup.Checked) {act : Activity}
    (hr : Runs linked act s h r s') : AboveOutcome linked act s h := by
  induction hr with
  | refused he => exact fun _ => by simp
  | @entered function caller s s' m h r he hl ih =>
    intro hs
    obtain ⟨entry, globals, -, rfl, hin⟩ := enter_ok hc hs he
    have hpushed : (mapContext Context.beginCall s).state.context.depth = s.state.context.depth :=
      Context.beginCall_depth _
    exact List.forall_mem_cons.mpr ⟨.of_le rfl hpushed.ge,
      ih _ _ _ (Context.beginCall_depth _) hin⟩
  | runaway hi =>
    rintro base first rest rfl hs
    exact List.forall_mem_singleton.mpr (.of_le rfl hs.lt_depth.le)
  | fellOff hi hst =>
    rintro base first rest rfl hs
    exact List.forall_mem_singleton.mpr (.of_le rfl hs.lt_depth.le)
  | faulted hf hd =>
    rintro base first rest rfl hs
    exact above_fetched hs (by simp)
  | @advanced caller exitDepth s s' st m h r hf hd hl ih =>
    rintro base first rest rfl hs
    have he := effect_of_ok hc (dispatched_sound hs hf) hd
    obtain ⟨more, hin, -⟩ := running_inCall hc (ready_inCall hs st) (by simp) (fetches_lt hf) he
    have hpushes :
        ∀ moment ∈ pushes (ready linked.setup st s).state m, moment.Above base.depth := by
      rw [pushes]
      split_ifs
      · exact List.forall_mem_singleton.mpr
          (.of_le rfl (ready_inCall hs st).lt_depth.le)
      · simp
    exact above_fetched hs (List.forall_mem_append.mpr ⟨hpushes, ih base first _ rfl hin⟩)
  | exited hf hd hx =>
    rintro base first rest rfl hs
    exact above_fetched hs (by simp)
  | @resumed caller exitDepth s s' st m h r hf hd hx hl ih =>
    rintro base first rest rfl hs
    have he := effect_of_ok hc (dispatched_sound hs hf) hd
    obtain ⟨rest', p, rfl, hin⟩ := resumed_inCall (ready_inCall hs st) he hx
    exact above_fetched hs (ih base first rest' rfl hin)
  | @builtinFailed caller exitDepth s s' st m function argc h err hf hd hb ih =>
    rintro base first rest rfl hs
    obtain rfl := builtin_eq (effect_of_ok hc (dispatched_sound hs hf) hd)
    have hm := ih (stands_builtin hs hf).1
    exact above_fetched hs fun moment hmem =>
      (hm moment hmem).mono (ready_inCall hs st).lt_depth.le
  | @builtinReturned caller exitDepth s s' s'' st m function argc h h' r hf hd hb hl ihb ih =>
    rintro base first rest rfl hs
    obtain rfl := builtin_eq (effect_of_ok hc (dispatched_sound hs hf) hd)
    have hm := ihb (stands_builtin hs hf).1
    obtain ⟨base', first', rest', hbase, hin⟩ :=
      Proceeds.stands hc (.builtinReturned hf hd hb) ⟨base, first, rest, rfl, hs⟩
    refine above_fetched hs (List.forall_mem_append.mpr ⟨fun moment hmem => ?_, ?_⟩)
    · exact (hm moment hmem).mono (ready_inCall hs st).lt_depth.le
    · exact ih base' first' rest' hbase hin
  | unbound hb => exact fun _ => by simp
  | unavailable hb hd => exact fun _ => by simp
  | @hosted caller function argc s s' s'' b h r r' hb hd hh hr ih =>
    intro hs
    exact List.forall_mem_cons.mpr ⟨.of_le rfl le_rfl,
      ih (Neutral.started hs function).atHost⟩
  | done => exact fun _ => by simp
  | @answered label op next s s' s'' a h r ht ha hh ih =>
    intro hs
    have hn := (answer_neutral hs ht ha).1
    have hm := ih hn.atHost
    rw [hn.stack.depth_eq] at hm
    exact List.forall_mem_cons.mpr ⟨.of_le rfl le_rfl, hm⟩
  | @called label function next s s' s'' h h' r r' hp hcall hh ihc ih =>
    intro hs
    have hn : Neutral linked.setup s h s' := hcall.outcome hc hs
    have hm := ih hn.atHost
    rw [hn.stack.depth_eq] at hm
    exact above_nested le_rfl hn.stack.depth_eq.ge (ihc hs) hm
  | @executed label function caller next s s' s'' h h' r r' hcall hh ihc ih =>
    intro hs
    have hn : Neutral linked.setup s h s' := hcall.outcome hc hs
    have hm := ih hn.atHost
    rw [hn.stack.depth_eq] at hm
    exact above_nested le_rfl hn.stack.depth_eq.ge (ihc hs) hm

def Activity.Follows (image : Image) (as : List Activation) : Activity → Context → Prop
  | .loop .., c => c.Chained image as
  | .call .., c | .builtin .., c | .host .., c => c.Chained image as ∧ c.AtCall image as

section Follow

variable {st : Statement} {running : List Activation}

def dispatching (running : List Activation) (c : Context) : List Activation :=
  (running.take c.depth).modify (c.depth - 1) fun a => { a with last := some c.statement }

lemma foldl_fetched (setup : Setup) (st : Statement) (s : Recorded Machine) (h : History)
    (running : List Activation) :
    (Moment.due s.state :: .dispatched st (ready setup st s).state :: h).foldl Moment.follow
      running = h.foldl Moment.follow (dispatching running s.state.context) := by
  have hd : (ready setup st s).state.context.depth = s.state.context.depth := by
    rw [ready_context]
    rfl
  have hst : (ready setup st s).state.context.statement = s.state.context.statement := by
    rw [ready_context]
    rfl
  simp only [List.foldl_cons, Moment.follow, dispatching, hd, hst, List.take_take, min_self]

lemma last_of_dispatching {c : Context} {a : Activation}
    (hl : (running.take c.depth).length = c.depth)
    (ha : a ∈ (dispatching running c).getLast?) : a.last = some c.statement := by
  rw [dispatching, List.getLast?_eq_getElem?, List.length_modify, hl, List.getElem?_modify] at ha
  obtain ⟨b, -, rfl⟩ : ∃ b, _ ∧ _ = a := by simpa using ha
  rfl

lemma dispatching_chained {image : Image}
    (hch : s.state.context.Chained image (running.take s.state.context.depth)) (setup : Setup)
    (st : Statement) :
    (ready setup st s).state.context.Chained image (dispatching running s.state.context) := by
  refine (hch.dispatched s.state.context.statement).of_frames ?_
  rw [ready_context]
  rfl

lemma dispatching_atCall {image : Image}
    (hch : s.state.context.Chained image (running.take s.state.context.depth)) (setup : Setup)
    (hst : image.parts.statements[s.state.context.statement]? = some st)
    (hcall : st.op.argCount?.isSome) :
    (ready setup st s).state.context.AtCall image (dispatching running s.state.context) := by
  intro a ha
  rw [ready_context]
  exact ⟨last_of_dispatching hch.length ha, st, hst, hcall⟩

lemma Neutral.follows {image : Image} {as : List Activation} (hn : Neutral linked.setup s h s')
    (hm : ∀ moment ∈ h, moment.Above s.state.context.depth)
    (hf : s.state.context.Chained image as ∧ s.state.context.AtCall image as) :
    s'.state.context.Chained image ((h.foldl Moment.follow as).take s'.state.context.depth) ∧
      s'.state.context.AtCall image
        ((h.foldl Moment.follow as).take s'.state.context.depth) := by
  rw [hn.stack.depth_eq, Moment.Above.foldl_follow hm hf.1.length.ge, hf.1.take_depth,
    Context.AtCall, hn.stack.statement]
  exact ⟨hf.1.of_frames hn.stack.frames, hf.2⟩

lemma follows_nested {image : Image} {op : HostOp} (hn : Neutral linked.setup s h s')
    (hm : ∀ moment ∈ h, moment.Above s.state.context.depth)
    (hf : s.state.context.Chained image (running.take s.state.context.depth) ∧
      s.state.context.AtCall image (running.take s.state.context.depth)) (label : String)
    (code : Host (Except VmError Unit)) :
    (Activity.host label code).Follows image
      (((Moment.asked op s.state :: (h ++ [.ended r s'.state])).foldl Moment.follow running).take
        s'.state.context.depth) s'.state.context := by
  rw [List.foldl_cons, List.foldl_append]
  simp only [List.foldl_cons, List.foldl_nil, Moment.follow, List.take_take, min_self]
  exact hn.follows hm hf

lemma chained_running {setup : Setup} {m m' : Machine} {as : List Activation} {image : Image}
    (hch : m.context.Chained image as) (he : Exec.Effect setup m .running m')
    (hat : m'.context.frames ≠ m.context.frames → m.context.AtCall image as) :
    m'.context.Chained image (((pushes m m').foldl Moment.follow as).take m'.context.depth) := by
  cases he with
  | @moved statement memory ht hm =>
    have hquiet : pushes m ⟨memory, m.context.setStatement statement, m.profile⟩ = [] :=
      if_neg (lt_irrefl m.context.depth)
    have hnew : (m.context.setStatement statement).Chained image as := hch.of_frames rfl
    rw [hquiet, List.foldl_nil, hnew.take_depth]
    exact hnew
  | @entered function entry globals hz hf hb hg hp =>
    have hne : (m.enter function entry globals).context.frames ≠ m.context.frames := by
      intro heq
      simpa [Machine.enter, Context.pushed, Context.setStatement] using congrArg Array.size heq
    have hnew := hch.entered (hat hne) function entry globals
    rw [pushes_enter, List.foldl_cons, List.foldl_nil, Moment.follow, hch.take_depth,
      hnew.take_depth]
    exact hnew

theorem Proceeds.follows (hc : linked.setup.Checked) {act act' : Activity}
    (hp : Proceeds linked act s h act' s') (hs : act.Stands linked.setup s.state)
    (hf : act.Follows linked.setup.image (running.take s.state.context.depth) s.state.context) :
    act'.Follows linked.setup.image
      ((h.foldl Moment.follow running).take s'.state.context.depth) s'.state.context := by
  cases hp with
  | @entered function caller _ m he =>
    obtain ⟨hch, hat⟩ := hf
    obtain ⟨entry, globals, -, rfl, -⟩ := enter_ok hc hs he
    have hbegin : s.state.context.beginCall.Chained linked.setup.image
        (running.take s.state.context.depth) := hch.of_frames (Context.beginCall_frames _)
    have hcall : s.state.context.beginCall.AtCall linked.setup.image
        (running.take s.state.context.depth) := by
      rw [Context.AtCall, Context.beginCall_statement]
      exact hat
    have hnew := Context.Chained.entered (m := (mapContext Context.beginCall s).state) hbegin hcall
      function entry globals
    simp only [List.foldl_cons, List.foldl_nil, Moment.follow, mapContext_context,
      Context.beginCall_depth]
    rw [hnew.take_depth]
    exact hnew
  | @advanced caller exitDepth _ st m hfetch hd =>
    obtain ⟨base, first, rest, -, hs⟩ := hs
    have hsound := dispatched_sound hs hfetch
    have hch := dispatching_chained hf linked.setup st
    have he := effect_of_ok hc hsound hd
    rw [foldl_fetched]
    refine chained_running hch he fun hne => ?_
    have hcall := Exec.isCall_of_dispatch hsound.1.memory.whole hd (.inr ⟨rfl, hne⟩)
    exact dispatching_atCall hf linked.setup hfetch.2 hcall
  | @resumed caller exitDepth _ st m hfetch hd hx =>
    obtain ⟨base, first, rest, -, hs⟩ := hs
    have hch := dispatching_chained hf linked.setup st
    have he := effect_of_ok hc (dispatched_sound hs hfetch) hd
    rw [foldl_fetched]
    cases he with
    | @returned frame globals hback hg =>
      exact (hch.popped frame).of_frames rfl
  | @builtinCalled caller exitDepth _ st m function argc hfetch hd =>
    obtain ⟨base, first, rest, -, hs⟩ := hs
    have hsound := dispatched_sound hs hfetch
    obtain rfl := builtin_eq (effect_of_ok hc hsound hd)
    have hch := dispatching_chained hf linked.setup st
    have hcall := Exec.isCall_of_dispatch hsound.1.memory.whole hd (.inl ⟨_, _, rfl⟩)
    rw [foldl_fetched, List.foldl_nil, hch.take_depth]
    exact ⟨hch, dispatching_atCall hf linked.setup hfetch.2 hcall⟩
  | @builtinReturned caller exitDepth _ s₁ st m function argc h hfetch hd hb =>
    obtain ⟨base, first, rest, -, hs⟩ := hs
    have hsound := dispatched_sound hs hfetch
    obtain rfl := builtin_eq (effect_of_ok hc hsound hd)
    have hch := dispatching_chained hf linked.setup st
    have hcall := Exec.isCall_of_dispatch hsound.1.memory.whole hd (.inl ⟨_, _, rfl⟩)
    have hat := (stands_builtin hs hfetch).1
    rw [foldl_fetched]
    exact (Neutral.follows (hb.outcome hc hat) (hb.above hc hat)
      ⟨hch, dispatching_atCall hf linked.setup hfetch.2 hcall⟩).1.of_frames rfl
  | @hosted caller function argc _ b hb hd =>
    simp only [List.foldl_cons, List.foldl_nil, Moment.follow, List.take_take, min_self]
    exact hf
  | answered ht ha =>
    have hn := (answer_neutral hs.1 ht ha).1.follows (by simp) hf
    exact hn
  | called hp =>
    simp only [List.foldl_cons, List.foldl_nil, Moment.follow, List.take_take, min_self]
    exact hf
  | executed =>
    simp only [List.foldl_cons, List.foldl_nil, Moment.follow, List.take_take, min_self]
    exact hf
  | callEnded hp hr => exact follows_nested (hr.outcome hc hs.1) (hr.above hc hs.1) hf _ _
  | executeEnded hr => exact follows_nested (hr.outcome hc hs.1) (hr.above hc hs.1) hf _ _

theorem Leads.follows (hc : linked.setup.Checked) {act act' : Activity}
    (hl : Leads linked act s h act' s') (hs : act.Stands linked.setup s.state)
    (hf : act.Follows linked.setup.image (running.take s.state.context.depth) s.state.context) :
    act'.Follows linked.setup.image
      ((h.foldl Moment.follow running).take s'.state.context.depth) s'.state.context := by
  induction hl with
  | refl => exact hf
  | stage hl hp ih =>
    rw [List.foldl_append]
    exact hp.follows hc (hl.stands hc hs) ih

end Follow

end Call

end GameVm
