import GameVm.Proofs.Dispatch

/-! Stacks that have grown since a call began, and what unwinding them restores. -/

namespace GameVm

/-- A frame with the machine that it was pushed on. -/
structure Push where
  frame : Frame
  machine : Machine

def Frame.Covers (frame : Frame) (x : Nat) : Prop :=
  frame.parmStart ≤ x ∧ x < frame.parmStart + frame.locals

instance (frame : Frame) (x : Nat) : Decidable (frame.Covers x) :=
  inferInstanceAs (Decidable (_ ∧ _))

namespace Push

def window (p : Push) : List Cell :=
  Cells.read p.machine.memory.globals.cells p.frame.parmStart p.frame.locals

structure Fits (n : Nat) (p : Push) : Prop where
  globals : p.machine.memory.globals.cells.size = n
  window : p.frame.parmStart + p.frame.locals ≤ n

lemma length_window {n : Nat} {p : Push} (h : p.Fits n) : p.window.length = p.frame.locals :=
  Cells.length_read (h.globals.symm ▸ h.window)

/-- Write the windows back, that of the outermost frame last. -/
def restore : List Push → Globals → Globals
  | [], g => g
  | p :: ps, g => ⟨Cells.write (restore ps g).cells p.frame.parmStart p.window⟩

lemma restore_append (ps qs : List Push) (g : Globals) :
    restore (ps ++ qs) g = restore ps (restore qs g) := by
  induction ps with
  | nil => rfl
  | cons p ps ih => simp only [List.cons_append, restore, ih]

@[simp]
lemma size_restore (ps : List Push) (g : Globals) :
    (restore ps g).cells.size = g.cells.size := by
  induction ps with
  | nil => rfl
  | cons p ps ih => simp only [restore, Cells.size_write, ih]

/-- The outermost frame that covers a cell decides what the cell holds in the end. -/
lemma getElem?_restore {n : Nat} {ps : List Push} (hp : ∀ p ∈ ps, p.Fits n) {g : Globals}
    (hg : g.cells.size = n) (x : Nat) :
    (restore ps g).cells[x]? = match ps.find? (fun p => p.frame.Covers x) with
      | some p => p.machine.memory.globals.cells[x]?
      | none => g.cells[x]? := by
  induction ps with
  | nil => rfl
  | cons p ps ih =>
    have hfits := hp p List.mem_cons_self
    have hl := length_window hfits
    have hw : p.frame.parmStart + p.window.length ≤ (restore ps g).cells.size := by
      rw [hl, size_restore, hg]
      exact hfits.window
    rw [restore, Cells.getElem?_write _ _ _ _ hw, hl]
    by_cases hx : p.frame.Covers x
    · have hx' := hx
      rw [Frame.Covers] at hx'
      rw [if_pos hx', List.find?_cons_of_pos (by simpa using hx), window, Cells.getElem?_read,
        if_pos (by omega), Nat.add_sub_cancel' hx'.1]
    · rw [if_neg (by exact hx), List.find?_cons_of_neg (by simpa using hx)]
      exact ih fun q hq => hp q (List.mem_cons_of_mem _ hq)

lemma getElem?_restore_of_forall_not {n : Nat} {ps : List Push} (hp : ∀ p ∈ ps, p.Fits n)
    {g : Globals} (hg : g.cells.size = n) {x : Nat} (hx : ∀ p ∈ ps, ¬ p.frame.Covers x) :
    (restore ps g).cells[x]? = g.cells[x]? := by
  have hf : ps.find? (fun p => p.frame.Covers x) = none := by simpa using hx
  rw [getElem?_restore hp hg, hf]

lemma getElem?_restore_of_first {n : Nat} {ps : List Push} (hp : ∀ p ∈ ps, p.Fits n)
    {g : Globals} (hg : g.cells.size = n) {x k : Nat} {p : Push} (hk : ps[k]? = some p)
    (hx : p.frame.Covers x) (hj : ∀ j < k, ∀ q, ps[j]? = some q → ¬ q.frame.Covers x) :
    (restore ps g).cells[x]? = p.machine.memory.globals.cells[x]? := by
  obtain ⟨hlt, rfl⟩ := List.getElem?_eq_some_iff.mp hk
  have hf : ps.find? (fun p => p.frame.Covers x) = some ps[k] := by
    refine List.find?_eq_some_iff_getElem.mpr ⟨by simpa using hx, k, hlt, rfl, fun j hjk => ?_⟩
    simpa using hj j hjk _ (List.getElem?_eq_getElem (by omega))
  rw [getElem?_restore hp hg, hf]

end Push

namespace Context

structure SameStack (c c' : Context) : Prop where
  frames : c.frames = c'.frames
  saved : c.saved = c'.saved
  statement : c.statement = c'.statement
  activeCalls : c.activeCalls = c'.activeCalls

lemma SameStack.refl (c : Context) : c.SameStack c := ⟨rfl, rfl, rfl, rfl⟩

lemma SameStack.depth_eq {c c' : Context} (h : c.SameStack c') : c.depth = c'.depth :=
  congrArg Array.size h.frames

lemma SameStack.trans {a b c : Context} (h : a.SameStack b) (h' : b.SameStack c) :
    a.SameStack c :=
  ⟨h.frames.trans h'.frames, h.saved.trans h'.saved, h.statement.trans h'.statement,
    h.activeCalls.trans h'.activeCalls⟩

/-- The stack of `c` is that of `base` with the frames of `pushes` on top. -/
structure Grown (n : Nat) (base : Context) (pushes : List Push) (c : Context) : Prop where
  frames : c.frames.toList = base.frames.toList ++ pushes.map (·.frame)
  saved : c.saved.toList = base.saved.toList ++ pushes.flatMap (·.window)
  laid : Laid base.saved.size (pushes.map (·.frame)) c.saved.size
  fits : ∀ p ∈ pushes, p.Fits n
  activeCalls : c.activeCalls = base.activeCalls
  origin : ∀ p ∈ pushes.head?, p.frame.callerStatement = base.statement

namespace Grown

variable {n : Nat} {base c : Context} {ps : List Push} {p : Push}

lemma refl (n : Nat) (c : Context) : Grown n c [] c :=
  ⟨by simp, by simp, rfl, by simp, rfl, by simp⟩

lemma depth (h : Grown n base ps c) : c.depth = base.depth + ps.length := by
  simpa [Context.depth] using congrArg List.length h.frames

lemma getElem?_frames (h : Grown n base ps c) (k : Nat) :
    c.frames[base.depth + k]? = ps[k]?.map (·.frame) := by
  rw [← Array.getElem?_toList, h.frames, List.getElem?_append_right (by simp [Context.depth])]
  simp [Context.depth]

lemma setStatement (h : Grown n base ps c) (statement : Nat) :
    Grown n base ps (c.setStatement statement) := ⟨h.1, h.2, h.3, h.4, h.5, h.6⟩

lemma of_sameStack {c' : Context} (h : Grown n base ps c) (hs : c'.SameStack c) :
    Grown n base ps c' where
  frames := hs.frames ▸ h.frames
  saved := hs.saved ▸ h.saved
  laid := hs.saved ▸ h.laid
  fits := h.fits
  activeCalls := hs.activeCalls.trans h.activeCalls
  origin := h.origin

lemma pushed {m : Machine} {function : Nat} {entry : FunctionEntry}
    (h : Grown n base ps m.context) (hg : m.memory.globals.cells.size = n)
    (hw : entry.parmStart.toNat + entry.locals.toNat ≤ n)
    (ho : ps = [] → m.context.statement = base.statement) :
    Grown n base (ps ++ [⟨m.context.newFrame function entry, m⟩])
      (m.context.pushed function entry m.memory.globals) := by
  have hl : (Cells.read m.memory.globals.cells entry.parmStart.toNat entry.locals.toNat).length =
      entry.locals.toNat := Cells.length_read (hg.symm ▸ hw)
  refine ⟨?_, ?_, ?_, ?_, h.activeCalls, ?_⟩
  · simp [Context.pushed, h.frames]
  · simp [Context.pushed, h.saved, Push.window, newFrame]
  · rw [List.map_append, List.map_singleton, laid_concat]
    refine ⟨h.laid, ?_⟩
    rw [Context.pushed, ← Array.length_toList, Array.toList_appendList, List.length_append, hl,
      Array.length_toList]
    rfl
  · intro p hp
    rcases List.mem_append.mp hp with hp | hp
    · exact h.fits p hp
    · obtain rfl := List.mem_singleton.mp hp
      exact ⟨hg, hw⟩
  · intro p hp
    cases ps with
    | nil =>
      obtain rfl : _ = p := by simpa using hp
      exact ho rfl
    | cons q ps => exact h.origin p (by simpa using hp)

lemma back? (h : Grown n base (ps ++ [p]) c) : c.frames.back? = some p.frame := by
  rw [← Array.getLast?_toList, h.frames]
  simp

lemma localsBase_eq (h : Grown n base (ps ++ [p]) c) :
    p.frame.localsBase = (base.saved.toList ++ ps.flatMap (·.window)).length := by
  have hl := h.laid
  rw [List.map_append, List.map_singleton, laid_concat] at hl
  have hs := congrArg List.length h.saved
  have hp := Push.length_window (h.fits p (by simp))
  simp only [Array.length_toList, List.flatMap_append, List.flatMap_singleton, List.length_append]
    at hs ⊢
  omega

lemma window_eq (h : Grown n base (ps ++ [p]) c) :
    Cells.read c.saved p.frame.localsBase (c.saved.size - p.frame.localsBase) = p.window := by
  have hs : c.saved.toList = (base.saved.toList ++ ps.flatMap (·.window)) ++ p.window := by
    simpa using h.saved
  rw [Cells.read, Array.toList_extract, List.extract_eq_take_drop, hs, h.localsBase_eq,
    List.drop_left]
  refine List.take_of_length_le ?_
  have := congrArg List.length hs
  simp only [Array.length_toList, List.length_append] at this ⊢
  omega

lemma popped (h : Grown n base (ps ++ [p]) c) : Grown n base ps (c.popped p.frame) := by
  have hs : c.saved.toList = (base.saved.toList ++ ps.flatMap (·.window)) ++ p.window := by
    simpa using h.saved
  have hl := h.laid
  rw [List.map_append, List.map_singleton, laid_concat] at hl
  refine ⟨?_, ?_, ?_, ?_, h.activeCalls, ?_⟩
  · simp [Context.popped, h.frames, ← List.append_assoc]
  · rw [Context.popped, Array.shrink_eq_take, Array.toList_extract, List.extract_eq_take_drop,
      List.drop_zero, Nat.sub_zero, hs, h.localsBase_eq, List.take_left]
  · convert hl.1
    simp only [Context.popped, Array.size_shrink]
    omega
  · exact fun q hq => h.fits q (List.mem_append_left _ hq)
  · intro q hq
    exact h.origin q (by cases ps <;> simp_all)

lemma pop_eq (h : Grown n base (ps ++ [p]) c) {g : Globals} (hg : g.cells.size = n) :
    pop (c, g) = .ok p.frame (c.popped p.frame, Push.restore [p] g) := by
  have hw := (h.fits p (by simp)).window
  rw [Context.pop_eq h.back? (hg.symm ▸ hw), h.window_eq]
  rfl

lemma sameStack (h : Grown n base [] c) (hs : c.statement = base.statement) : c.SameStack base where
  frames := Array.toList_inj.mp (by simpa using h.frames)
  saved := Array.toList_inj.mp (by simpa using h.saved)
  statement := hs
  activeCalls := h.activeCalls

lemma eq_base (h : Grown n base [] c) :
    c = { c with frames := base.frames, saved := base.saved } := by
  have hs := (h.setStatement base.statement).sameStack rfl
  rw [← hs.frames, ← hs.saved]
  rfl

lemma popMany_eq (h : Grown n base ps c) {g : Globals} (hg : g.cells.size = n) :
    ∃ statement, popMany ps.length (c, g) =
      ({ c with frames := base.frames, saved := base.saved, statement }, Push.restore ps g) := by
  induction ps using List.reverseRecOn generalizing c g with
  | nil => exact ⟨c.statement, congrArg (·, g) h.eq_base⟩
  | append_singleton ps p ih =>
    obtain ⟨statement, hs⟩ := ih h.popped (g := Push.restore [p] g) (by simpa using hg)
    refine ⟨statement, ?_⟩
    rw [List.length_append, List.length_singleton, popMany, h.pop_eq hg, Push.restore_append]
    exact hs

lemma unwind_eq (h : Grown n base ps c) {g : Globals} (hg : g.cells.size = n)
    (mark : CallMark) (hd : mark.depth = base.depth) (hl : mark.locals = base.saved.size) :
    unwind mark (c, g) = ({ c with
      frames := base.frames, saved := base.saved, statement := mark.statement },
      Push.restore ps g) := by
  obtain ⟨statement, hs⟩ := h.popMany_eq hg
  have hk : c.depth - mark.depth = ps.length := by
    rw [h.depth, hd, Nat.add_sub_cancel_left]
  rw [unwind, hk, hs]
  simp [rewind, hd, hl, Context.depth]

end Grown

end Context

end GameVm
