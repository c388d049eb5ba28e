import GameVm.Proofs.Reachable

/-! Programs that pass the checks fail on their data only, at every moment of every session. -/

namespace GameVm

/-- Nothing that a machine is about to look at lies outside: statements, saved windows, globals and
entity records. -/
structure Machine.InRange (setup : Setup) (m : Machine) : Prop where
  statement : m.context.statement ≤ setup.image.parts.statements.size
  /-- The window that a frame has saved ends where that of the next frame begins. -/
  saved : ∀ k frame, m.context.frames[k]? = some frame → frame.localsBase + frame.locals =
    (m.context.frames[k + 1]?.map (·.localsBase)).getD m.context.saved.size
  windows : ∀ frame ∈ m.context.frames,
    frame.parmStart + frame.locals ≤ m.memory.globals.cells.size
  fields : ∀ entity field n start, m.memory.entities.span entity field n = .ok start →
    start + n ≤ m.memory.entities.cells.size
  pointers : ∀ byte n cell, m.memory.entities.locate byte n = .ok cell →
    cell + n ≤ m.memory.entities.cells.size

/-- Whichever statement of the program is dispatched: it goes on at a statement or at the end of the
program, or it changes nothing and fails for a reason that depends on data. -/
def Machine.FailsOnDataOnly (setup : Setup) (m : Machine) : Prop :=
  ∀ pc st, setup.image.parts.statements[pc]? = some st →
    match Exec.dispatch setup st (m.mapContext (·.setStatement pc)) with
    | .ok _ m' => m'.context.statement ≤ setup.image.parts.statements.size
    | .error fault m' => fault.DependsOnData ∧ m' = m.mapContext (·.setStatement pc)

lemma Context.laid_getElem? {base top : Nat} {fs : List Frame} (h : Laid base fs top) {k : Nat}
    {frame : Frame} (hk : fs[k]? = some frame) :
    frame.localsBase + frame.locals = (fs[k + 1]?.map (·.localsBase)).getD top := by
  induction fs generalizing base k with
  | nil => simp at hk
  | cons f fs ih =>
    obtain ⟨hb, hl⟩ := h
    cases k with
    | zero =>
      obtain rfl : f = frame := by simpa using hk
      cases fs with
      | nil => simpa [Laid, hb] using hl
      | cons g gs => simpa [hb] using hl.1.symm
    | succ k => simpa using ih hl (by simpa using hk)

namespace Machine.Sound

variable {setup : Setup} {m : Machine}

lemma withMemory (h : m.Sound setup) {memory : Memory} (hs : memory.SameShape m.memory) :
    Machine.Sound setup { m with memory } :=
  ⟨h.memory.of_sameShape hs, h.context⟩

lemma inRange (h : m.Sound setup) : m.InRange setup where
  statement := h.context.statement
  saved := by
    intro k frame hk
    simpa using Context.laid_getElem? h.context.laid (by simpa using hk)
  windows := by
    intro frame hf
    rw [h.memory.globals]
    exact h.context.windows frame (Array.mem_def.mp hf)
  fields := fun _ _ _ _ => Entities.span_fits h.memory.whole
  pointers := fun _ _ _ => Entities.locate_fits

lemma statement_le (h : m.Sound setup) (hc : setup.Checked)
    (hlt : m.context.statement < setup.image.parts.statements.size) {flow : Flow} {m' : Machine}
    (he : Exec.Effect setup m flow m') :
    m'.context.statement ≤ setup.image.parts.statements.size := by
  cases he with
  | moved hs hm =>
    rcases hs with rfl | hs
    · exact hlt
    · exact hs.le
  | @entered function entry globals hz hf hb hg hp =>
    exact (((hc.parts.functions function entry hf).2.2 hb).first hz).le
  | @returned frame globals hf hg =>
    exact h.context.callers frame (Array.mem_def.mp (Array.mem_of_back? hf))
  | builtin hf hb => exact hlt.le

lemma failsOnDataOnly (h : m.Sound setup) (hc : setup.Checked) (hne : m.context.frames ≠ #[]) :
    m.FailsOnDataOnly setup := by
  intro pc st hst
  have hlt : pc < setup.image.parts.statements.size := (Array.getElem?_eq_some_iff.mp hst).1
  have hm : (m.mapContext (·.setStatement pc)).Sound setup := by
    refine ⟨h.memory, h.context.setStatement ?_ hlt.le⟩
    refine Nat.pos_of_ne_zero fun hz => hne (h.context.idle hz).1
  have he := Call.dispatch_of_sound hc (m := m.mapContext (·.setStatement pc)) ⟨hm, hne, hst⟩
  rw [Exec.Ends] at he
  cases hd : Exec.dispatch setup st (m.mapContext (·.setStatement pc)) with
  | ok flow m' =>
    rw [hd] at he
    exact hm.statement_le hc hlt he
  | error fault m' =>
    rw [hd] at he
    exact ⟨he.2, he.1⟩

end Machine.Sound

/-- At every moment of a session the machine is in range, and whatever its memory holds, statements
fail on data only. -/
theorem Instance.fails_on_data_only {i : Instance} (hi : i.Created) {α : Type} (code : Host α)
    (journal : Journal) {moment : Moment} (hm : moment ∈ i.history code journal) :
    (∀ memory : Memory, memory.SameShape moment.machine.memory →
      Machine.InRange i.linked.setup { moment.machine with memory } ∧
      (moment.machine.context.frames ≠ #[] →
        Machine.FailsOnDataOnly i.linked.setup { moment.machine with memory })) ∧
    (∀ m, moment = .due m →
      i.linked.setup.image.parts.statements[m.context.statement]? = none →
      m.context.statement = i.linked.setup.image.parts.statements.size) ∧
    ∀ st m, moment = .dispatched st m → m.context.frames ≠ #[] ∧
      i.linked.setup.image.parts.statements[m.context.statement]? = some st := by
  have hs : moment.Sound i.linked.setup := (hi.neutral code journal).moments moment hm
  refine ⟨fun memory hshape => ?_, ?_, ?_⟩
  · have hmem := hs.machine.withMemory hshape
    exact ⟨hmem.inRange, hmem.failsOnDataOnly hi.checked⟩
  · rintro m rfl hnone
    exact le_antisymm hs.machine.context.statement (Array.getElem?_eq_none_iff.mp hnone)
  · rintro st m rfl
    exact hs.2

theorem Relay.session_fails_on_data_only :
    relay.Created ∧ ∃ st m, Moment.dispatched st m ∈ relay.history session #[] ∧
      Machine.InRange relay.linked.setup m ∧ Machine.FailsOnDataOnly relay.linked.setup m := by
  have hsome : (relay.history session #[]).any (· matches .dispatched ..) = true := by
    decide +kernel
  obtain ⟨moment, hm, hd⟩ := List.any_eq_true.mp hsome
  cases moment with
  | dispatched st m =>
    obtain ⟨hmemory, -, hst⟩ := Instance.fails_on_data_only created session #[] hm
    obtain ⟨hrange, hfails⟩ := hmemory m.memory (.refl _)
    exact ⟨created, st, m, hm, hrange, hfails (hst st m rfl).1⟩
  | _ => cases hd

end GameVm
