import GameVm.Machine.Context
import GameVm.Proofs.WellFormed

/-! Pushing and popping frames whose windows lie inside the globals. -/

namespace GameVm

/-- The state that an operation leaves, whether or not it succeeds. -/
def leftBy {ε σ α : Type} (operation : EStateM ε σ α) (s : σ) : σ :=
  match operation s with
  | .ok _ s' => s'
  | .error _ s' => s'

lemma leftBy_of_ok {ε σ α : Type} {operation : EStateM ε σ α} {s s' : σ} {a : α}
    (h : operation s = .ok a s') : leftBy operation s = s' := by
  rw [leftBy, h]

lemma leftBy_of_error {ε σ α : Type} {operation : EStateM ε σ α} {s s' : σ} {err : ε}
    (h : operation s = .error err s') : leftBy operation s = s' := by
  rw [leftBy, h]

lemma leftBy_bind {ε σ α β : Type} (x : EStateM ε σ α) (f : α → EStateM ε σ β) (s : σ) :
    leftBy (x >>= f) s = match x s with
      | .ok a s' => leftBy (f a) s'
      | .error _ s' => s' := by
  simp only [leftBy, bind, EStateM.bind]
  cases x s <;> rfl

namespace Cells

lemma length_read {cells : Array Cell} {i n : Nat} (h : i + n ≤ cells.size) :
    (read cells i n).length = n := by
  simp only [read, Array.length_toList, Array.size_extract]
  omega

lemma getElem?_read (cells : Array Cell) (i n k : Nat) :
    (read cells i n)[k]? = if k < n then cells[i + k]? else none := by
  rw [read, Array.getElem?_toList, Array.getElem?_extract]
  by_cases hk : k < n
  · by_cases hc : i + k < cells.size
    · rw [if_pos (by omega), if_pos hk]
    · rw [if_neg (by omega), if_pos hk, Array.getElem?_eq_none (by omega)]
  · rw [if_neg (by omega), if_neg hk]

lemma getElem?_write (cells : Array Cell) (i : Nat) (vs : List Cell) (x : Nat)
    (h : i + vs.length ≤ cells.size) :
    (write cells i vs)[x]? = if i ≤ x ∧ x < i + vs.length then vs[x - i]? else cells[x]? := by
  induction vs generalizing cells i with
  | nil =>
    rw [write, if_neg (by simp)]
  | cons v vs ih =>
    simp only [List.length_cons] at h ⊢
    rw [write, ih _ _ (by simp; omega), Array.getElem?_setIfInBounds]
    by_cases hx : i = x
    · subst hx
      simp only [show ¬ i + 1 ≤ i by omega, false_and, if_false, le_refl, true_and]
      rw [if_pos trivial, if_pos (by omega), if_pos (by omega)]
      simp
    · by_cases hr : i + 1 ≤ x ∧ x < i + 1 + vs.length
      · rw [if_pos hr, if_pos (by omega), show x - i = (x - (i + 1)) + 1 by omega,
          List.getElem?_cons_succ]
      · rw [if_neg hr, if_neg hx, if_neg (by omega)]

end Cells

namespace Context

/-- Frames whose saved windows follow each other from `base` on and end at `top`. -/
def Laid (base : Nat) : List Frame → Nat → Prop
  | [], top => base = top
  | frame :: frames, top => frame.localsBase = base ∧ Laid (base + frame.locals) frames top

lemma laid_append {base top : Nat} {fs gs : List Frame} :
    Laid base (fs ++ gs) top ↔ ∃ mid, Laid base fs mid ∧ Laid mid gs top := by
  induction fs generalizing base with
  | nil => simp [Laid]
  | cons f fs ih => simp [Laid, ih, and_assoc]

lemma laid_concat {base top : Nat} {fs : List Frame} {f : Frame} :
    Laid base (fs ++ [f]) top ↔ Laid base fs f.localsBase ∧ f.localsBase + f.locals = top := by
  rw [laid_append]
  constructor
  · rintro ⟨mid, hf, hb, ht⟩
    subst hb
    exact ⟨hf, ht⟩
  · rintro ⟨hf, ht⟩
    exact ⟨_, hf, rfl, ht⟩

def newFrame (c : Context) (function : Nat) (entry : FunctionEntry) : Frame :=
  ⟨function, c.statement, c.saved.size, entry.parmStart.toNat, entry.locals.toNat⟩

def pushed (c : Context) (function : Nat) (entry : FunctionEntry) (globals : Globals) : Context :=
  { c with
    frames := c.frames.push (c.newFrame function entry)
    saved := c.saved ++
      Cells.read globals.cells entry.parmStart.toNat entry.locals.toNat }

def popped (c : Context) (frame : Frame) : Context :=
  { c with
    frames := c.frames.pop
    saved := c.saved.shrink frame.localsBase
    statement := frame.callerStatement }

lemma copyCells_below (source target n : Nat) (g : Globals) :
    (leftBy (copyCells source target n) g).cells.size = g.cells.size ∧
    ∀ x < target, (leftBy (copyCells source target n) g).cells[x]? = g.cells[x]? := by
  induction n generalizing g source target with
  | zero => exact ⟨rfl, fun _ _ => rfl⟩
  | succ n ih =>
    have hget : (get : Access Globals Globals) g = .ok g g := rfl
    rw [copyCells, leftBy_bind, hget]
    dsimp only
    cases g.cell source with
    | error err => exact ⟨rfl, fun _ _ => rfl⟩
    | ok v =>
      dsimp only
      rw [leftBy_bind, Globals.setCell]
      split_ifs
      · obtain ⟨hsize, hbelow⟩ := ih (source + 1) (target + 1) ⟨g.cells.setIfInBounds target v⟩
        refine ⟨hsize.trans Array.size_setIfInBounds, fun x hx => ?_⟩
        exact (hbelow x (by omega)).trans (Array.getElem?_setIfInBounds_ne (by omega))
      · exact ⟨rfl, fun _ _ => rfl⟩

lemma copyParms_below (n target : Nat) (sizes : List Nat) (g : Globals) :
    (leftBy (copyParms n target sizes) g).cells.size = g.cells.size ∧
    ∀ x < target, (leftBy (copyParms n target sizes) g).cells[x]? = g.cells[x]? := by
  induction sizes generalizing g n target with
  | nil => exact ⟨rfl, fun _ _ => rfl⟩
  | cons size sizes ih =>
    obtain ⟨hsize, hbelow⟩ := copyCells_below (Slots.parm n) target size g
    rw [copyParms, leftBy_bind]
    cases hc : copyCells (Slots.parm n) target size g with
    | ok _ g' =>
      obtain ⟨hsize', hbelow'⟩ := ih (n + 1) (target + size) g'
      rw [leftBy_of_ok hc] at hsize hbelow
      exact ⟨hsize'.trans hsize, fun x hx => (hbelow' x (by omega)).trans (hbelow x hx)⟩
    | error _ g' =>
      rw [leftBy_of_error hc] at hsize hbelow
      exact ⟨hsize, hbelow⟩

lemma copyCells_ok (g : Globals) (source target n : Nat) (hs : source + n ≤ g.cells.size)
    (ht : target + n ≤ g.cells.size) :
    ∃ g', copyCells source target n g = .ok () g' ∧ g'.cells.size = g.cells.size := by
  induction n generalizing g source target with
  | zero => exact ⟨g, rfl, rfl⟩
  | succ n ih =>
    obtain ⟨g', hc, hz⟩ := ih ⟨g.cells.setIfInBounds target g.cells[source]⟩
      (source + 1) (target + 1) (by simp; omega) (by simp; omega)
    refine ⟨g', ?_, by simpa using hz⟩
    have hget : (get : Access Globals Globals) g = .ok g g := rfl
    rw [← hc, copyCells]
    simp [bind, EStateM.bind, hget, Globals.cell, Globals.setCell,
      show source < g.cells.size by omega, show target < g.cells.size by omega]

lemma copyParms_ok (g : Globals) (n target : Nat) (sizes : List Nat)
    (hs : ∀ size ∈ sizes, size ≤ Slots.parmCells) (hn : n + sizes.length ≤ Slots.maxParms)
    (hr : Slots.reserved ≤ g.cells.size)
    (ht : target + sizes.foldr (· + ·) 0 ≤ g.cells.size) :
    ∃ g', copyParms n target sizes g = .ok () g' ∧ g'.cells.size = g.cells.size := by
  induction sizes generalizing g n target with
  | nil => exact ⟨g, rfl, rfl⟩
  | cons size sizes ih =>
    simp only [List.mem_cons, forall_eq_or_imp, List.length_cons, List.foldr_cons, Slots.parmCells,
      Slots.maxParms, Slots.reserved, Slots.parm0] at hs hn hr ht
    obtain ⟨g₁, h₁, z₁⟩ := copyCells_ok g (Slots.parm n) target size
      (by simp only [Slots.parm, Slots.parm0, Slots.parmCells]; omega) (by omega)
    obtain ⟨g₂, h₂, z₂⟩ := ih g₁ (n + 1) (target + size) hs.2
      (by simp only [Slots.maxParms]; omega)
      (by simp only [Slots.reserved, Slots.parm0, Slots.parmCells, Slots.maxParms]; omega)
      (by omega)
    refine ⟨g₂, ?_, z₂.trans z₁⟩
    simp [copyParms, bind, EStateM.bind, h₁, h₂]

lemma push_cases {p : Parts} (hp : p.WellFormed) {c : Context} {globals : Globals} {function : Nat}
    {entry : FunctionEntry} (hf : p.functions[function]? = some entry)
    (hb : entry.isBuiltin = false) (hg : globals.cells.size = p.globals.size) :
    (∃ n, push function entry (c, globals) = .error (.stackOverflow n) (c, globals)) ∨
    (∃ n k, push function entry (c, globals) = .error (.localsOverflow n k) (c, globals)) ∨
    ∃ globals', globals'.cells.size = globals.cells.size ∧
      push function entry (c, globals) = .ok () (c.pushed function entry globals, globals') := by
  have hfits := (hp.functions function entry hf).2.2 hb
  have hr := hp.reserved
  have hw := hfits.window
  obtain ⟨globals', hc, hz⟩ := copyParms_ok globals 0 entry.parmStart.toNat entry.parms
    (fun size hs => by rcases hfits.sizes size hs with rfl | rfl <;> simp [Slots.parmCells])
    (by simp only [FunctionEntry.parms, List.length_map, List.length_take, Slots.maxParms]; simp)
    (by omega)
    (by have := hfits.total; simp only [FunctionEntry.parmCells] at this; omega)
  rw [push]
  dsimp only
  split_ifs with hd hl
  · exact .inl ⟨_, rfl⟩
  · exact .inr (.inl ⟨_, _, rfl⟩)
  · refine .inr (.inr ⟨globals', hz, ?_⟩)
    rw [Globals.read, if_pos (by omega)]
    simp only [hc]
    rfl

lemma pop_eq {c : Context} {globals : Globals} {frame : Frame}
    (hf : c.frames.back? = some frame)
    (hw : frame.parmStart + frame.locals ≤ globals.cells.size) :
    pop (c, globals) = .ok frame (c.popped frame, ⟨Cells.write globals.cells frame.parmStart
      (Cells.read c.saved frame.localsBase (c.saved.size - frame.localsBase))⟩) := by
  simp only [pop, hf, Globals.check, if_pos hw]
  rfl

end Context

end GameVm
