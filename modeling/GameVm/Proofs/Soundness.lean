import GameVm.Proofs.Runs
import GameVm.Proofs.Stack

/-! The invariant of a machine: its stack is in order and its memory fits the program. -/

namespace GameVm

/-- Saved windows follow each other, windows and statements are in range, and the stack is empty
when nothing runs. -/
structure Context.Sound (setup : Setup) (c : Context) : Prop where
  laid : Laid 0 c.frames.toList c.saved.size
  windows : ∀ frame ∈ c.frames.toList,
    frame.parmStart + frame.locals ≤ setup.image.parts.globals.size
  callers : ∀ frame ∈ c.frames.toList,
    frame.callerStatement ≤ setup.image.parts.statements.size
  /-- Only the outermost frame has a caller that is not a statement. -/
  resumes : ∀ frame ∈ c.frames.toList.tail,
    frame.callerStatement < setup.image.parts.statements.size
  statement : c.statement ≤ setup.image.parts.statements.size
  maxDepth : c.maxDepth = setup.settings.maxCallDepth
  localLimit : c.localLimit = setup.settings.localStackSize
  idle : c.activeCalls = 0 →
    c.frames = #[] ∧ c.saved = #[] ∧ c.statement = 0 ∧ c.pending = none

structure Machine.Sound (setup : Setup) (m : Machine) : Prop where
  memory : m.memory.Fits setup
  context : m.context.Sound setup

/-- The machine is in the hands of the host: if anything runs, it stands at a call. -/
structure Machine.AtHost (setup : Setup) (m : Machine) : Prop extends m.Sound setup where
  current : m.context.frames ≠ #[] → m.context.statement < setup.image.parts.statements.size

def Moment.Sound (setup : Setup) : Moment → Prop
  | .asked _ m | .hosted _ m | .ended _ m => m.AtHost setup
  | .due m | .pushed _ m => m.Sound setup
  | .dispatched st m => m.Sound setup ∧ m.context.frames ≠ #[] ∧
    setup.image.parts.statements[m.context.statement]? = some st

lemma Moment.Sound.machine {setup : Setup} {moment : Moment} (h : moment.Sound setup) :
    moment.machine.Sound setup := by
  cases moment with
  | asked op m => exact h.toSound
  | due m => exact h
  | dispatched st m => exact h.1
  | pushed function m => exact h
  | hosted function m => exact h.toSound
  | ended result m => exact h.toSound

namespace Context.Sound

variable {setup : Setup} {c c' : Context}

lemma of_sameStack (h : c.Sound setup) (hs : c'.SameStack c) (hd : c'.maxDepth = c.maxDepth)
    (hl : c'.localLimit = c.localLimit)
    (hp : c'.activeCalls = 0 → c.pending = none → c'.pending = none) : c'.Sound setup where
  laid := by rw [hs.frames, hs.saved]; exact h.laid
  windows := by rw [hs.frames]; exact h.windows
  callers := by rw [hs.frames]; exact h.callers
  resumes := by rw [hs.frames]; exact h.resumes
  statement := by rw [hs.statement]; exact h.statement
  maxDepth := hd.trans h.maxDepth
  localLimit := hl.trans h.localLimit
  idle := by
    intro ha
    obtain ⟨hf, hv, ht, hn⟩ := h.idle (hs.activeCalls ▸ ha)
    exact ⟨hs.frames.trans hf, hs.saved.trans hv, hs.statement.trans ht, hp ha hn⟩

lemma setStatement (h : c.Sound setup) (ha : 0 < c.activeCalls) {statement : Nat}
    (hs : statement ≤ setup.image.parts.statements.size) :
    (c.setStatement statement).Sound setup :=
  ⟨h.laid, h.windows, h.callers, h.resumes, hs, h.maxDepth, h.localLimit,
    fun hz => absurd hz ha.ne'⟩

lemma pushed (h : c.Sound setup) (ha : 0 < c.activeCalls)
    (hc : c.frames ≠ #[] → c.statement < setup.image.parts.statements.size)
    (function : Nat) {entry : FunctionEntry} {globals : Globals}
    (hg : globals.cells.size = setup.image.parts.globals.size)
    (hw : entry.parmStart.toNat + entry.locals.toNat ≤ setup.image.parts.globals.size) :
    (c.pushed function entry globals).Sound setup := by
  have hl : (Cells.read globals.cells entry.parmStart.toNat entry.locals.toNat).length =
      entry.locals.toNat := Cells.length_read (hg.symm ▸ hw)
  have hf : (c.pushed function entry globals).frames.toList =
      c.frames.toList ++ [c.newFrame function entry] := Array.toList_push
  refine ⟨?_, ?_, ?_, ?_, h.statement, h.maxDepth, h.localLimit, fun hz => absurd hz ha.ne'⟩
  · rw [hf, laid_concat]
    refine ⟨h.laid, ?_⟩
    rw [Context.pushed, ← Array.length_toList, Array.toList_appendList, List.length_append, hl,
      Array.length_toList]
    rfl
  · rw [hf]
    intro frame hm
    rcases List.mem_append.mp hm with hm | hm
    · exact h.windows frame hm
    · obtain rfl := List.mem_singleton.mp hm
      exact hw
  · rw [hf]
    intro frame hm
    rcases List.mem_append.mp hm with hm | hm
    · exact h.callers frame hm
    · obtain rfl := List.mem_singleton.mp hm
      exact h.statement
  · rw [hf]
    intro frame hm
    by_cases he : c.frames = #[]
    · simp [he] at hm
    · rw [List.tail_append_of_ne_nil (by simpa using he)] at hm
      rcases List.mem_append.mp hm with hm | hm
      · exact h.resumes frame hm
      · obtain rfl := List.mem_singleton.mp hm
        exact hc he

lemma popped (h : c.Sound setup) (ha : 0 < c.activeCalls) {frame : Frame}
    (hf : c.frames.back? = some frame) :
    (c.popped frame).Sound setup ∧ ((c.popped frame).frames ≠ #[] →
      (c.popped frame).statement < setup.image.parts.statements.size) := by
  rw [← Array.getLast?_toList, List.getLast?_eq_some_iff] at hf
  obtain ⟨fs, hf⟩ := hf
  have hp : (c.popped frame).frames.toList = fs := by simp [Context.popped, hf]
  have hl := h.laid
  have hr := h.resumes
  rw [hf, laid_concat] at hl
  rw [hf] at hr
  refine ⟨⟨?_, ?_, ?_, ?_, ?_, h.maxDepth, h.localLimit, fun hz => absurd hz ha.ne'⟩, ?_⟩
  · rw [hp]
    convert hl.1
    simp only [Context.popped, Array.size_shrink]
    omega
  · rw [hp]
    exact fun g hg => h.windows g (by simp [hf, hg])
  · rw [hp]
    exact fun g hg => h.callers g (by simp [hf, hg])
  · rw [hp]
    intro g hg
    refine hr g ?_
    rw [List.tail_append_of_ne_nil (by rintro rfl; simp at hg)]
    exact List.mem_append_left _ hg
  · exact h.callers frame (by simp [hf])
  · intro hne
    refine hr frame ?_
    rw [List.tail_append_of_ne_nil (by rintro rfl; simp_all)]
    simp

lemma fresh (setup : Setup) :
    (Context.fresh setup.settings.maxCallDepth setup.settings.localStackSize).Sound setup :=
  ⟨rfl, by simp [Context.fresh], by simp [Context.fresh], by simp [Context.fresh],
    Nat.zero_le _, rfl, rfl, fun _ => ⟨rfl, rfl, rfl, rfl⟩⟩

lemma eq_fresh (h : c.Sound setup) (hz : c.activeCalls = 0) :
    c = { Context.fresh setup.settings.maxCallDepth setup.settings.localStackSize with
      instructions := c.instructions, state := c.state } := by
  obtain ⟨hf, hv, ht, hp⟩ := h.idle hz
  have hd := h.maxDepth
  have hl := h.localLimit
  cases c
  subst hf hv ht hp hd hl hz
  rfl

end Context.Sound

lemma Memory.Fits.fresh {setup : Setup} {globals : Globals} {strings : StringTable}
    {capacity recordCells : Nat} (hg : globals.cells.size = setup.image.parts.globals.size)
    (hr : setup.image.parts.entityCells.toNat ≤ recordCells) :
    Memory.Fits setup ⟨globals, Entities.fresh capacity recordCells, strings⟩ :=
  ⟨hg, by simp [Entities.Whole, Entities.fresh], le_trans hr (le_max_left _ _)⟩

lemma MemoryOp.apply_fits {setup : Setup} {memory : Memory} (h : memory.Fits setup)
    (op : MemoryOp) : (op.apply memory).2.Fits setup := by
  have hentities {e : Entities} (hc : e.cells.size = memory.entities.cells.size)
      (hr : e.recordCells = memory.entities.recordCells)
      (hk : e.capacity = memory.entities.capacity) :
      Memory.Fits setup ⟨memory.globals, e, memory.strings⟩ := h.of_sameShape ⟨rfl, hc, hr, hk⟩
  have hstrings (strings : StringTable) :
      Memory.Fits setup ⟨memory.globals, memory.entities, strings⟩ :=
    h.of_sameShape ⟨rfl, rfl, rfl, rfl⟩
  cases op with
  | writeGlobals pos cells =>
    simp only [apply, settle, Memory.onGlobals, Globals.write]
    by_cases hp : pos + cells.length ≤ memory.globals.cells.size
    · rw [if_pos hp]
      exact h.of_sameShape (.of_globals (Cells.size_write ..))
    · rw [if_neg hp]
      exact h
  | writeField entity field cells =>
    simp only [apply, settle, Memory.onEntities, Entities.setField]
    cases memory.entities.span entity field cells.length with
    | ok start => exact hentities (Cells.size_write ..) rfl rfl
    | error err => exact h
  | storeEntity byte cells =>
    simp only [apply, settle, Memory.onEntities, Entities.store]
    cases memory.entities.locate byte cells.length with
    | ok start => exact hentities (Cells.size_write ..) rfl rfl
    | error err => exact h
  | allocEntity now =>
    simp only [apply, settle, Memory.onEntities, Entities.alloc]
    cases memory.entities.next? now with
    | some entity => exact hentities (Cells.size_write ..) rfl rfl
    | none => exact h
  | freeEntity entity now =>
    simp only [apply, settle, Memory.onEntities, Entities.free]
    split_ifs
    · exact h
    · exact h
    · exact hentities (Cells.size_write ..) rfl rfl
  | clearEntities => exact hentities Array.size_replicate rfl rfl
  | newScratch bytes => exact hstrings _
  | persist bytes => exact hstrings _
  | release handle =>
    simp only [apply, settle, Memory.onStrings]
    cases StringTable.release handle memory.strings with
    | ok a strings => exact hstrings _
    | error err strings => exact hstrings _
  | resetStrings => exact hstrings _

namespace Machine

variable {setup : Setup} {m : Machine}

lemma atHost_fresh (setup : Setup) (capacity : Nat) {recordCells : Nat}
    (hr : setup.image.parts.entityCells.toNat ≤ recordCells) :
    (fresh setup capacity recordCells).AtHost setup :=
  ⟨⟨.fresh rfl hr, .fresh setup⟩, fun hne => absurd rfl hne⟩

lemma atHost_restart (h : m.AtHost setup) : (m.restart setup).AtHost setup :=
  ⟨⟨h.memory.of_sameShape ⟨Cells.size_write .., Array.size_replicate, rfl, rfl⟩, .fresh setup⟩,
    fun hne => absurd rfl hne⟩

lemma AtHost.of_sameStack {m' : Machine} (h : m.AtHost setup) (hm : m'.Sound setup)
    (hs : m'.context.SameStack m.context) : m'.AtHost setup :=
  ⟨hm, fun hne => hs.statement ▸ h.current (hs.frames ▸ hne)⟩

end Machine

end GameVm
