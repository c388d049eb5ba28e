import GameVm.Proofs.Stack

/-! Frames come off the stack in the order in which they went on, whatever the functions declare
and whatever is written to the globals in between. -/

namespace GameVm.Context

inductive Op where
  | push (function : Nat) (entry : FunctionEntry)
  | pop
  | write (start : Nat) (values : List Cell)
  deriving DecidableEq

def Op.apply : Op → Context × Globals → Context × Globals
  | .push function entry, s => leftBy (Context.push function entry) s
  | .pop, s => leftBy Context.pop s
  | .write start values, (c, globals) => (c, leftBy (Globals.write start values) globals)

def after (s : Context × Globals) (ops : List Op) : Context × Globals :=
  ops.foldl (fun s op => op.apply s) s

lemma after_append (s : Context × Globals) (ops ops' : List Op) :
    after s (ops ++ ops') = after (after s ops) ops' := List.foldl_append

section Step

variable {s : Context × Globals}

lemma push_outcomes (function : Nat) (entry : FunctionEntry) (s : Context × Globals) :
    (∃ err, push function entry s = .error err s ∧
      (s.1.maxDepth ≤ s.1.depth ∧ err = .stackOverflow s.1.depth ∨
        s.1.localLimit - s.1.saved.size < entry.locals.toNat ∧
          err = .localsOverflow entry.locals.toNat (s.1.localLimit - s.1.saved.size) ∨
        s.2.cells.size < entry.parmStart.toNat + entry.locals.toNat ∧
          err = .access (.global entry.parmStart.toNat s.2.cells.size))) ∨
    (s.1.depth < s.1.maxDepth ∧ entry.locals.toNat ≤ s.1.localLimit - s.1.saved.size ∧
      entry.parmStart.toNat + entry.locals.toNat ≤ s.2.cells.size ∧
      ∃ globals, globals.cells.size = s.2.cells.size ∧
        (push function entry s = .ok () (s.1.pushed function entry s.2, globals) ∨
          ∃ err, push function entry s =
            .error (.access err) (s.1.pushed function entry s.2, globals))) := by
  obtain ⟨c, g⟩ := s
  dsimp only
  rw [push]
  dsimp only
  split_ifs with hd hl
  · exact .inl ⟨_, rfl, .inl ⟨hd, rfl⟩⟩
  · exact .inl ⟨_, rfl, .inr (.inl ⟨hl, rfl⟩)⟩
  · rw [Globals.read]
    split_ifs with hw
    · have hsize := (copyParms_below 0 entry.parmStart.toNat entry.parms g).1
      refine .inr ⟨by omega, by omega, hw, ?_⟩
      dsimp only
      cases hc : copyParms 0 entry.parmStart.toNat entry.parms g with
      | ok _ g' => exact ⟨g', leftBy_of_ok hc ▸ hsize, .inl rfl⟩
      | error err g' => exact ⟨g', leftBy_of_error hc ▸ hsize, .inr ⟨err, rfl⟩⟩
    · exact .inl ⟨_, rfl, .inr (.inr ⟨by omega, rfl⟩)⟩

def bare (s : Context × Globals) : Machine :=
  ⟨⟨s.2, .fresh 0 0, .fresh #[] 0 0⟩, s.1, #[]⟩

structure Holds (start : Context × Globals) (pushes : List Push) (s : Context × Globals) :
    Prop where
  grown : Grown start.2.cells.size start.1 pushes s.1
  globals : s.2.cells.size = start.2.cells.size
  statement : pushes = [] → s.1.statement = start.1.statement
  maxDepth : s.1.maxDepth = start.1.maxDepth
  localLimit : s.1.localLimit = start.1.localLimit
  depth : s.1.depth ≤ s.1.maxDepth
  saved : s.1.saved.size ≤ s.1.localLimit

namespace Holds

variable {start : Context × Globals} {ps : List Push} {p : Push}

lemma of_globals (h : Holds start ps s) {globals : Globals}
    (hg : globals.cells.size = s.2.cells.size) : Holds start ps (s.1, globals) :=
  ⟨h.grown, hg.trans h.globals, h.statement, h.maxDepth, h.localLimit, h.depth, h.saved⟩

lemma pushed (h : Holds start ps s) {function : Nat} {entry : FunctionEntry} {globals : Globals}
    (hd : s.1.depth < s.1.maxDepth) (hl : entry.locals.toNat ≤ s.1.localLimit - s.1.saved.size)
    (hw : entry.parmStart.toNat + entry.locals.toNat ≤ s.2.cells.size)
    (hg : globals.cells.size = s.2.cells.size) :
    Holds start (ps ++ [⟨s.1.newFrame function entry, bare s⟩])
      (s.1.pushed function entry s.2, globals) where
  grown := h.grown.pushed (m := bare s) h.globals (h.globals ▸ hw) h.statement
  globals := hg.trans h.globals
  statement := by simp
  maxDepth := h.maxDepth
  localLimit := h.localLimit
  depth := by simpa [Context.depth, Context.pushed] using hd
  saved := by
    have hroom := h.saved
    have hsize : (s.1.pushed function entry s.2).saved.size =
        s.1.saved.size + entry.locals.toNat := by
      rw [Context.pushed, ← Array.length_toList, Array.toList_appendList, List.length_append,
        Cells.length_read hw, Array.length_toList]
    rw [hsize]
    exact show s.1.saved.size + entry.locals.toNat ≤ s.1.localLimit by omega

lemma popped (h : Holds start (ps ++ [p]) s) {globals : Globals}
    (hg : globals.cells.size = s.2.cells.size) : Holds start ps (s.1.popped p.frame, globals) where
  grown := h.grown.popped
  globals := hg.trans h.globals
  statement := by
    rintro rfl
    exact h.grown.origin p rfl
  maxDepth := h.maxDepth
  localLimit := h.localLimit
  depth := by
    have hd := h.depth
    simp only [Context.depth, Context.popped, Array.size_pop] at hd ⊢
    omega
  saved := by
    have hs := h.saved
    simp only [Context.popped, Array.size_shrink]
    omega

lemma frames_eq_empty (h : Holds start [] s) (h0 : start.1.frames = #[]) : s.1.frames = #[] := by
  simpa [h0] using h.grown.frames

lemma pop_underflow (h : Holds start [] s) (h0 : start.1.frames = #[]) :
    pop s = .error .underflow s := by
  rw [pop, h.frames_eq_empty h0]
  rfl

lemma pop_eq (h : Holds start (ps ++ [p]) s) :
    pop s = .ok p.frame (s.1.popped p.frame, Push.restore [p] s.2) := h.grown.pop_eq h.globals

lemma localsBase_add (h : Holds start (ps ++ [p]) s) :
    p.frame.localsBase + p.frame.locals = s.1.saved.size := by
  have hl := h.grown.laid
  rw [List.map_append, List.map_singleton, laid_concat] at hl
  exact hl.2

lemma getElem?_popped (h : Holds start (ps ++ [p]) s) (x : Nat) :
    (Push.restore [p] s.2).cells[x]? =
      if p.frame.Covers x then p.machine.memory.globals.cells[x]? else s.2.cells[x]? := by
  have hfits : ∀ q ∈ [p], q.Fits start.2.cells.size := by
    simpa using h.grown.fits p (by simp)
  rw [Push.getElem?_restore hfits h.globals]
  by_cases hx : p.frame.Covers x
  · simp [hx]
  · simp [hx]

lemma apply (h : Holds start ps s) (h0 : start.1.frames = #[]) (op : Op) :
    Holds start ps (op.apply s) ∨
    (∃ function entry, op = .push function entry ∧
      Holds start (ps ++ [⟨s.1.newFrame function entry, bare s⟩]) (op.apply s)) ∨
    ∃ ps' p, ps = ps' ++ [p] ∧ Holds start ps' (op.apply s) := by
  cases op with
  | push function entry =>
    rcases push_outcomes function entry s with ⟨err, hp, -⟩ | ⟨hd, hl, hw, globals, hg, hp⟩
    · left
      rw [Op.apply, leftBy_of_error hp]
      exact h
    · refine .inr (.inl ⟨function, entry, rfl, ?_⟩)
      have hp : leftBy (Context.push function entry) s =
          (s.1.pushed function entry s.2, globals) := by
        rcases hp with hp | ⟨err, hp⟩
        · exact leftBy_of_ok hp
        · exact leftBy_of_error hp
      rw [Op.apply, hp]
      exact h.pushed hd hl hw hg
  | pop =>
    rcases List.eq_nil_or_concat ps with rfl | ⟨ps', p, rfl⟩
    · left
      rw [Op.apply, leftBy_of_error (h.pop_underflow h0)]
      exact h
    · rw [List.concat_eq_append] at h
      refine .inr (.inr ⟨ps', p, List.concat_eq_append, ?_⟩)
      rw [Op.apply, leftBy_of_ok h.pop_eq]
      exact h.popped (Push.size_restore ..)
  | write first values =>
    refine .inl (h.of_globals ?_)
    rw [leftBy, Globals.write]
    split_ifs
    · exact Cells.size_write ..
    · rfl

end Holds

end Step

section History

/-- The frame at depth `k` was pushed in state `s`, and the stack has been deeper than `k` ever
since. -/
def Opened (start : Context × Globals) (ops : List Op) (k : Nat) (frame : Frame)
    (s : Context × Globals) : Prop :=
  ∃ before function entry since, ops = before ++ .push function entry :: since ∧
    s = after start before ∧ s.1.depth = k ∧ frame = s.1.newFrame function entry ∧
    ∀ since', since' <+: since →
      k < (after start (before ++ .push function entry :: since')).1.depth

lemma Opened.snoc {start s : Context × Globals} {ops : List Op} {k : Nat} {frame : Frame}
    (h : Opened start ops k frame s) {op : Op} (hk : k < (after start (ops ++ [op])).1.depth) :
    Opened start (ops ++ [op]) k frame s := by
  obtain ⟨before, function, entry, since, rfl, hs, hd, hf, hdeep⟩ := h
  refine ⟨before, function, entry, since ++ [op], by simp, hs, hd, hf, ?_⟩
  intro since' hpre
  rcases List.prefix_concat_iff.mp hpre with rfl | hpre
  · simpa using hk
  · exact hdeep since' hpre

lemma Opened.here {start : Context × Globals} {ops : List Op} {function : Nat}
    {entry : FunctionEntry} (h : (after start ops).1.depth <
      (after start (ops ++ [.push function entry])).1.depth) :
    Opened start (ops ++ [.push function entry]) (after start ops).1.depth
      ((after start ops).1.newFrame function entry) (after start ops) := by
  refine ⟨ops, function, entry, [], rfl, rfl, rfl, rfl, ?_⟩
  intro since' hpre
  obtain rfl := List.prefix_nil.mp hpre
  exact h

lemma exists_holds {start : Context × Globals} (h0 : Holds start [] start)
    (hf : start.1.frames = #[]) (ops : List Op) :
    ∃ ps, Holds start ps (after start ops) ∧ ∀ k p, ps[k]? = some p →
      Opened start ops k p.frame (p.machine.context, p.machine.memory.globals) := by
  induction ops using List.reverseRecOn with
  | nil => exact ⟨[], h0, by simp⟩
  | append_singleton ops op ih =>
    obtain ⟨ps, h, ho⟩ := ih
    have hlast : after start (ops ++ [op]) = op.apply (after start ops) := after_append ..
    have hbase : start.1.depth = 0 := by rw [Context.depth, hf]; rfl
    have hdepth : ∀ {ps'}, Holds start ps' (op.apply (after start ops)) →
        (after start (ops ++ [op])).1.depth = ps'.length := by
      intro ps' h'
      rw [hlast, h'.grown.depth, hbase, Nat.zero_add]
    rw [hlast]
    rcases h.apply hf op with h' | ⟨function, entry, rfl, h'⟩ | ⟨ps', q, rfl, h'⟩
    · refine ⟨ps, h', fun k p hk => (ho k p hk).snoc ?_⟩
      rw [hdepth h']
      exact (List.getElem?_eq_some_iff.mp hk).1
    · refine ⟨_, h', fun k p hk => ?_⟩
      have hlt := (List.getElem?_eq_some_iff.mp hk).1
      have hprev : (after start ops).1.depth = ps.length := by
        rw [h.grown.depth, hbase, Nat.zero_add]
      by_cases hnew : k < ps.length
      · rw [List.getElem?_append_left hnew] at hk
        exact (ho k p hk).snoc (by rw [hdepth h']; exact hlt)
      · rw [List.length_append, List.length_singleton] at hlt
        obtain rfl : k = ps.length := by omega
        obtain rfl : _ = p := by simpa using hk
        rw [← hprev]
        exact Opened.here (by rw [hdepth h', hprev]; simp)
    · refine ⟨ps', h', fun k p hk => (ho k p ?_).snoc ?_⟩
      · rw [List.getElem?_append_left (List.getElem?_eq_some_iff.mp hk).1, hk]
      · rw [hdepth h']
        exact (List.getElem?_eq_some_iff.mp hk).1

lemma laid_sum {base top : Nat} {frames : List Frame} (h : Laid base frames top) :
    top = base + (frames.map (·.locals)).sum := by
  induction frames generalizing base with
  | nil => exact h.symm
  | cons frame frames ih =>
    rw [ih h.2, List.map_cons, List.sum_cons, Nat.add_assoc]

lemma laid_localsBase {base top : Nat} {frames : List Frame} (h : Laid base frames top) {i : Nat}
    {frame : Frame} (hi : frames[i]? = some frame) :
    frame.localsBase = base + ((frames.take i).map (·.locals)).sum := by
  obtain ⟨hlt, rfl⟩ := List.getElem?_eq_some_iff.mp hi
  rw [← List.take_append_drop i frames, laid_append] at h
  obtain ⟨mid, hbelow, habove⟩ := h
  rw [List.drop_eq_getElem_cons hlt] at habove
  rw [habove.1, laid_sum hbelow]

lemma holds_fresh (maxDepth localLimit : Nat) (globals : Globals) :
    Holds (fresh maxDepth localLimit, globals) [] (fresh maxDepth localLimit, globals) :=
  ⟨Grown.refl .., rfl, fun _ => rfl, rfl, rfl, Nat.zero_le _, Nat.zero_le _⟩

theorem frames_leave_as_they_came (maxDepth localLimit : Nat) (globals : Globals)
    (ops : List Op) :
    let start := (fresh maxDepth localLimit, globals)
    let s := after start ops
    s.1.saved.size = (s.1.frames.toList.map (·.locals)).sum ∧
    (∀ i, ∀ frame ∈ s.1.frames[i]?,
      frame.localsBase = ((s.1.frames.toList.take i).map (·.locals)).sum) ∧
    s.1.depth ≤ maxDepth ∧ s.1.saved.size ≤ localLimit ∧ s.2.cells.size = globals.cells.size ∧
    (match pop s with
      | .ok frame s' =>
        frame.localsBase + frame.locals = s.1.saved.size ∧
        frame.parmStart + frame.locals ≤ s.2.cells.size ∧ s'.1 = s.1.popped frame ∧
        s'.2.cells.size = s.2.cells.size ∧
        ∃ s₀, Opened start ops (s.1.depth - 1) frame s₀ ∧
          ∀ x, s'.2.cells[x]? = if frame.Covers x then s₀.2.cells[x]? else s.2.cells[x]?
      | .error err s' => err = .underflow ∧ s.1.frames = #[] ∧ s' = s) ∧
    ∀ function entry, match push function entry s with
      | .ok _ s' => s'.1 = s.1.pushed function entry s.2 ∧ s'.2.cells.size = s.2.cells.size
      | .error (.stackOverflow _) s' => maxDepth ≤ s.1.depth ∧ s' = s
      | .error (.localsOverflow needed available) s' =>
        needed = entry.locals.toNat ∧ available = localLimit - s.1.saved.size ∧
          available < needed ∧ s' = s
      | .error (.access _) s' =>
        if entry.parmStart.toNat + entry.locals.toNat ≤ s.2.cells.size then
          s'.1 = s.1.pushed function entry s.2 ∧ s'.2.cells.size = s.2.cells.size
        else s' = s
      | .error .underflow _ => False := by
  intro start s
  obtain ⟨ps, h, ho⟩ := exists_holds (holds_fresh maxDepth localLimit globals) rfl ops
  have hlaid : Laid 0 s.1.frames.toList s.1.saved.size := by
    rw [h.grown.frames]
    exact h.grown.laid
  have hmax : s.1.maxDepth = maxDepth := h.maxDepth
  have hlimit : s.1.localLimit = localLimit := h.localLimit
  refine ⟨?_, ?_, hmax ▸ h.depth, hlimit ▸ h.saved, h.globals, ?_, ?_⟩
  · simpa using laid_sum hlaid
  · intro i frame hi
    simpa using laid_localsBase hlaid (by simpa using hi)
  · rcases List.eq_nil_or_concat ps with rfl | ⟨ps', p, rfl⟩
    · rw [h.pop_underflow rfl]
      exact ⟨rfl, h.frames_eq_empty rfl, rfl⟩
    · rw [List.concat_eq_append] at h ho
      have hdepth : s.1.depth - 1 = ps'.length := by
        rw [h.grown.depth, List.length_append]
        exact Nat.zero_add _
      rw [h.pop_eq, hdepth]
      exact ⟨h.localsBase_add, (h.grown.fits p (by simp)).window.trans_eq h.globals.symm, rfl,
        Push.size_restore .., _, ho _ p (by simp), h.getElem?_popped⟩
  · intro function entry
    rcases push_outcomes function entry s with ⟨err, hp, hwhy⟩ | ⟨hd, hl, hw, g, hg, hp⟩
    · rw [hp]
      rcases hwhy with ⟨hd, rfl⟩ | ⟨hl, rfl⟩ | ⟨hw, rfl⟩
      · exact ⟨hmax ▸ hd, rfl⟩
      · exact ⟨rfl, by rw [hlimit], hl, rfl⟩
      · dsimp only
        rw [if_neg (Nat.not_le_of_lt hw)]
    · rcases hp with hp | ⟨err, hp⟩
      · rw [hp]
        exact ⟨rfl, hg⟩
      · rw [hp]
        dsimp only
        rw [if_pos hw]
        exact ⟨rfl, hg⟩

end History

end GameVm.Context
