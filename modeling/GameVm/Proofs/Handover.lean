import GameVm.Proofs.Stack

/-! What a call copies from the parameter slots, and what a return leaves in the result slots. -/

namespace GameVm

namespace Cells

lemma read_zero (cells : Array Cell) (i : Nat) : read cells i 0 = [] := by
  simp [read]

lemma read_succ {cells : Array Cell} {i : Nat} (n : Nat) (h : i < cells.size) :
    read cells i (n + 1) = cells[i] :: read cells (i + 1) n := by
  apply List.ext_getElem?
  intro k
  cases k with
  | zero => simp [getElem?_read, h]
  | succ k =>
    rw [List.getElem?_cons_succ, getElem?_read, getElem?_read, Nat.add_right_comm i 1 k,
      ← Nat.add_assoc i k 1]
    simp

lemma write_append (cells : Array Cell) (i : Nat) (vs ws : List Cell) :
    write cells i (vs ++ ws) = write (write cells i vs) (i + vs.length) ws := by
  induction vs generalizing cells i with
  | nil => rfl
  | cons v vs ih =>
    rw [List.cons_append, write, write, ih, List.length_cons, Nat.add_assoc, Nat.add_comm 1]

lemma read_write_of_le {cells : Array Cell} {i n j : Nat} {vs : List Cell} (h : i + n ≤ j)
    (hv : j + vs.length ≤ cells.size) : read (write cells j vs) i n = read cells i n := by
  apply List.ext_getElem?
  intro k
  rw [getElem?_read, getElem?_read, getElem?_write _ _ _ _ hv]
  by_cases hk : k < n
  · rw [if_pos hk, if_pos hk, if_neg (by omega)]
  · rw [if_neg hk, if_neg hk]

lemma read_write_self {cells : Array Cell} {i : Nat} {vs : List Cell}
    (h : i + vs.length ≤ cells.size) : read (write cells i vs) i vs.length = vs := by
  apply List.ext_getElem?
  intro k
  rw [getElem?_read, getElem?_write _ _ _ _ h]
  by_cases hk : k < vs.length
  · rw [if_pos hk, if_pos (by omega), Nat.add_sub_cancel_left]
  · rw [if_neg hk, List.getElem?_eq_none (by omega)]

end Cells

namespace Slots

lemma result_le {n : Nat} (h : reserved ≤ n) : result + 3 ≤ n :=
  le_trans (by decide) h

def values (cells : Array Cell) (n : Nat) (sizes : List Nat) : List Cell :=
  (sizes.zipIdx n).flatMap fun (size, i) => Cells.read cells (parm i) size

lemma values_cons (cells : Array Cell) (n size : Nat) (sizes : List Nat) :
    values cells n (size :: sizes) =
      Cells.read cells (parm n) size ++ values cells (n + 1) sizes := rfl

structure Fit (n : Nat) (sizes : List Nat) : Prop where
  small : ∀ size ∈ sizes, size ≤ parmCells
  count : n + sizes.length ≤ maxParms

lemma Fit.tail {n size : Nat} {sizes : List Nat} (h : Fit n (size :: sizes)) :
    Fit (n + 1) sizes where
  small := fun s hs => h.small s (List.mem_cons_of_mem _ hs)
  count := by
    have hc := h.count
    rw [List.length_cons] at hc
    omega

lemma Fit.parm_le {n size : Nat} {sizes : List Nat} (h : Fit n (size :: sizes)) :
    parm n + size ≤ reserved := by
  have hs := h.small size List.mem_cons_self
  have hc := h.count
  rw [List.length_cons, maxParms] at hc
  simp only [parm, reserved, parm0, maxParms, parmCells] at hs ⊢
  omega

lemma length_values {cells : Array Cell} (hr : reserved ≤ cells.size) {n : Nat}
    {sizes : List Nat} (h : Fit n sizes) :
    (values cells n sizes).length = sizes.foldr (· + ·) 0 := by
  induction sizes generalizing n with
  | nil => rfl
  | cons size sizes ih =>
    have hp := h.parm_le
    rw [values_cons, List.length_append, Cells.length_read (by omega), ih h.tail, List.foldr_cons]

lemma values_write {cells : Array Cell} {j : Nat} {vs : List Cell} (hj : reserved ≤ j)
    (hv : j + vs.length ≤ cells.size) {n : Nat} {sizes : List Nat} (h : Fit n sizes) :
    values (Cells.write cells j vs) n sizes = values cells n sizes := by
  induction sizes generalizing n with
  | nil => rfl
  | cons size sizes ih =>
    have hp := h.parm_le
    rw [values_cons, values_cons, Cells.read_write_of_le (by omega) hv, ih h.tail]

end Slots

namespace Context

lemma copyCells_eq (g : Globals) (source target n : Nat) (hd : source + n ≤ target)
    (ht : target + n ≤ g.cells.size) :
    copyCells source target n g =
      .ok () ⟨Cells.write g.cells target (Cells.read g.cells source n)⟩ := by
  induction n generalizing g source target with
  | zero =>
    rw [Cells.read_zero]
    rfl
  | succ n ih =>
    have hs : source < g.cells.size := by omega
    have hset : g.cells.setIfInBounds target g.cells[source] =
      Cells.write g.cells target [g.cells[source]] := rfl
    have hnext := ih ⟨g.cells.setIfInBounds target g.cells[source]⟩ (source + 1) (target + 1)
      (by omega) (by simp; omega)
    have hget : (get : Access Globals Globals) g = .ok g g := rfl
    rw [copyCells, Cells.read_succ n hs, Cells.write]
    simp only [bind, EStateM.bind, hget, Globals.cell, hs, Globals.setCell, if_pos,
      show target < g.cells.size by omega, dite_true]
    rw [hnext]
    rw [hset, Cells.read_write_of_le (by omega) (by simp; omega)]

lemma copyParms_eq (g : Globals) (target : Nat) {n : Nat} {sizes : List Nat} (h : Slots.Fit n sizes)
    (hr : sizes ≠ [] → Slots.reserved ≤ target)
    (ht : target + sizes.foldr (· + ·) 0 ≤ g.cells.size) :
    copyParms n target sizes g =
      .ok () ⟨Cells.write g.cells target (Slots.values g.cells n sizes)⟩ := by
  induction sizes generalizing g n target with
  | nil => rfl
  | cons size sizes ih =>
    have hp := h.parm_le
    have hres := hr (by simp)
    rw [List.foldr_cons] at ht
    have hl : (Cells.read g.cells (Slots.parm n) size).length = size :=
      Cells.length_read (by omega)
    have hfirst := copyCells_eq g (Slots.parm n) target size (by omega) (by omega)
    have hnext := ih ⟨Cells.write g.cells target (Cells.read g.cells (Slots.parm n) size)⟩
      (target + size) h.tail (fun _ => by omega) (by rw [Cells.size_write]; omega)
    rw [copyParms, Slots.values_cons, Cells.write_append, hl]
    simp only [bind, EStateM.bind, hfirst]
    rw [hnext, Slots.values_write hres (by omega) h.tail]

lemma copyParms_of_push {c c' : Context} {g g' : Globals} {function : Nat} {entry : FunctionEntry}
    (h : push function entry (c, g) = .ok () (c', g')) :
    copyParms 0 entry.parmStart.toNat entry.parms g = .ok () g' := by
  rw [push] at h
  dsimp only at h
  split_ifs at h
  cases hw : g.read entry.parmStart.toNat entry.locals.toNat with
  | error err =>
    rw [hw] at h
    cases h
  | ok window =>
    simp only [hw] at h
    cases hc : copyParms 0 entry.parmStart.toNat entry.parms g with
    | error err g₁ =>
      rw [hc] at h
      cases h
    | ok u g₁ =>
      rw [hc] at h
      cases h
      rfl

end Context

def FunctionEntry.arguments (entry : FunctionEntry) (cells : Array Cell) : List Cell :=
  Slots.values cells 0 entry.parms

/-- No window of a function of the program holds a cell that calls and returns share. -/
def Image.WindowsApart (image : Image) : Prop :=
  ∀ entry ∈ image.parts.functions.toList, entry.isBuiltin = false → entry.locals ≠ 0 →
    Slots.reserved ≤ entry.parmStart.toNat

instance (image : Image) : Decidable image.WindowsApart :=
  inferInstanceAs (Decidable (∀ entry ∈ image.parts.functions.toList, _))

namespace Parts.FunctionFits

variable {p : Parts} {index : Nat} {entry : FunctionEntry}

lemma slots (h : p.FunctionFits index entry) : Slots.Fit 0 entry.parms where
  small := by
    intro size hs
    rcases h.sizes size hs with rfl | rfl <;> simp [Slots.parmCells]
  count := by
    simp only [FunctionEntry.parms, List.length_map, List.length_take, Slots.maxParms]
    simp

lemma locals_ne_zero (h : p.FunctionFits index entry) (hp : entry.parms ≠ []) :
    entry.locals ≠ 0 := by
  obtain ⟨size, sizes, hs⟩ := List.exists_cons_of_ne_nil hp
  have hsize := h.sizes size (by simp [hs])
  have htotal := h.total
  rw [FunctionEntry.parmCells, hs, List.foldr_cons] at htotal
  intro hz
  rw [hz, UInt32.toNat_zero] at htotal
  omega

end Parts.FunctionFits

namespace Machine

/-- `after` is `before` with the parameters in their places at the start of the window. -/
structure Entered (entry : FunctionEntry) (before after : Machine) : Prop where
  parameters : Cells.read after.memory.globals.cells entry.parmStart.toNat entry.parmCells =
    entry.arguments before.memory.globals.cells
  others : ∀ x, x < entry.parmStart.toNat ∨ entry.parmStart.toNat + entry.parmCells ≤ x →
    after.memory.globals.cells[x]? = before.memory.globals.cells[x]?

lemma entered_of_push {setup : Setup} (hc : setup.Checked) (hw : setup.image.WindowsApart)
    {m : Machine} (hm : m.memory.Fits setup) {function : Nat} {entry : FunctionEntry}
    (hf : setup.image.function? function = some entry) (hb : entry.isBuiltin = false)
    {c : Context} {globals : Globals}
    (hp : Context.push function entry (m.context, m.memory.globals) = .ok () (c, globals)) :
    Entered entry m (m.enter function entry globals) := by
  have hfits := (hc.parts.functions function entry hf).2.2 hb
  have hreserved := hc.parts.reserved
  have hwindow := hfits.window
  have htotal := hfits.total
  rw [← hm.globals] at hreserved hwindow
  have hlen : (entry.arguments m.memory.globals.cells).length = entry.parmCells :=
    Slots.length_values hreserved hfits.slots
  have hapart (hne : entry.parms ≠ []) : Slots.reserved ≤ entry.parmStart.toNat :=
    hw entry (Array.mem_def.mp (Array.mem_of_getElem? hf)) hb (hfits.locals_ne_zero hne)
  have hroom : entry.parmStart.toNat + entry.parmCells ≤ m.memory.globals.cells.size := by omega
  have hcopy := Context.copyParms_eq m.memory.globals entry.parmStart.toNat hfits.slots hapart hroom
  rw [Context.copyParms_of_push hp] at hcopy
  cases hcopy
  constructor
  · rw [← hlen]
    exact Cells.read_write_self (hlen.symm ▸ hroom)
  · intro x hx
    have hcell := Cells.getElem?_write m.memory.globals.cells entry.parmStart.toNat
      (entry.arguments m.memory.globals.cells) x (hlen.symm ▸ hroom)
    rw [hlen, if_neg (by omega)] at hcell
    exact hcell

end Machine

namespace Globals

def withResult (g : Globals) (a : Nat) : Globals :=
  if a = Slots.null then g
  else ⟨Cells.write g.cells Slots.result
    [g.cells.getD a 0, g.cells.getD (a + 1) 0, g.cells.getD (a + 2) 0]⟩

@[simp]
lemma size_withResult (g : Globals) (a : Nat) : (g.withResult a).cells.size = g.cells.size := by
  rw [withResult]
  split_ifs
  · rfl
  · exact Cells.size_write ..

lemma getElem?_withResult {g : Globals} (hg : Slots.reserved ≤ g.cells.size) (a : Nat) {k : Nat}
    (hk : k < 3) : (g.withResult a).cells[Slots.result + k]? =
      if a = Slots.null then g.cells[Slots.result + k]? else some (g.cells.getD (a + k) 0) := by
  rw [withResult]
  split_ifs with ha
  · rfl
  · rw [Cells.getElem?_write _ _ _ _ (Slots.result_le hg), if_pos (by simpa using hk),
      Nat.add_sub_cancel_left]
    interval_cases k <;> rfl

end Globals

namespace Exec

variable {setup : Setup} {m : Machine}

lemma leaveResult_eq (hg : Slots.reserved ≤ m.memory.globals.cells.size) (a : Nat) :
    leaveResult a m =
      .ok () { m with memory := { m.memory with globals := m.memory.globals.withResult a } } := by
  rw [leaveResult, Globals.withResult]
  split_ifs with ha
  · rfl
  · have hroom := Slots.result_le hg
    have hget : (get : Exec Machine) m = .ok m m := rfl
    simp [bind, EStateM.bind, hget, setCells, onMemory, Memory.onGlobals, Globals.write, hroom]

lemma dispatch_leave {st : Statement} {frame : Frame} (hl : Action.ofOpcode st.op = .leave)
    (hg : Slots.reserved ≤ m.memory.globals.cells.size)
    (hf : m.context.frames.back? = some frame)
    (hw : frame.parmStart + frame.locals ≤ m.memory.globals.cells.size) :
    dispatch setup st m =
      .ok .returned (m.leave frame (m.memory.globals.withResult st.a.toNat)) := by
  have hpop : Context.pop (m.context, m.memory.globals.withResult st.a.toNat) = _ :=
    Context.pop_eq hf (by rw [Globals.size_withResult]; exact hw)
  rw [dispatch, hl, perform]
  simp only [bind, EStateM.bind, leaveResult_eq hg, onFrames, hpop]
  rfl

end Exec

end GameVm
