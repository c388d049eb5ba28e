import GameVm.Machine.Host
import GameVm.Proofs.Frames

/-! The sizes of memory: accesses stay inside them and nothing but a reset changes them. -/

namespace GameVm

structure Memory.SameShape (a b : Memory) : Prop where
  globals : a.globals.cells.size = b.globals.cells.size
  cells : a.entities.cells.size = b.entities.cells.size
  recordCells : a.entities.recordCells = b.entities.recordCells
  capacity : a.entities.capacity = b.entities.capacity

lemma Memory.SameShape.refl (a : Memory) : a.SameShape a := ⟨rfl, rfl, rfl, rfl⟩

lemma Memory.SameShape.trans {a b c : Memory} (h : a.SameShape b) (h' : b.SameShape c) :
    a.SameShape c :=
  ⟨h.globals.trans h'.globals, h.cells.trans h'.cells, h.recordCells.trans h'.recordCells,
    h.capacity.trans h'.capacity⟩

lemma Memory.SameShape.of_globals {m : Memory} {g : Globals}
    (h : g.cells.size = m.globals.cells.size) : SameShape { m with globals := g } m :=
  ⟨h, rfl, rfl, rfl⟩

lemma Globals.reset_eq {g : Globals} {initial : Array Cell} (h : g.cells.size = initial.size) :
    g.reset initial = ⟨initial⟩ := by
  rw [reset, mk.injEq]
  apply Array.ext_getElem?
  intro i
  rw [Cells.getElem?_write _ _ _ _ (by simp [h])]
  by_cases hi : i < initial.size
  · simp [hi]
  · simp [hi, h]

namespace Entities

def Whole (e : Entities) : Prop := e.cells.size = e.capacity * e.recordCells

/-- Clearing goes over the cells and slots that are there, and comes to what a new memory of this
size starts with. -/
lemma clear_eq_fresh {e : Entities} (hw : e.Whole) (hs : e.slots.size = e.capacity)
    (hc : 1 ≤ e.capacity) (hr : 1 ≤ e.recordCells) : e.clear = fresh e.capacity e.recordCells := by
  have hslots : (Array.replicate e.capacity ⟨true, 0⟩).modify world
      (fun slot : EntitySlot => { slot with free := false }) =
      (Array.replicate e.capacity ⟨true, 0⟩).setIfInBounds world ⟨false, 0⟩ := by
    apply Array.ext_getElem?
    intro i
    rw [Array.getElem?_modify, Array.getElem?_setIfInBounds, Array.getElem?_replicate]
    by_cases hi : world = i
    · subst hi
      simp [world, show 0 < e.capacity by omega]
    · simp [hi]
  rw [clear, hw, hs, hslots, fresh, Nat.max_eq_left hc, Nat.max_eq_left hr]

lemma check_ok {e : Entities} {entity : Int} {n : Nat} (h : e.check entity = .ok n) :
    n < e.capacity ∧ (n : Int) = entity := by
  rw [check] at h
  split at h
  · cases h
    omega
  · cases h

lemma check_error {e : Entities} {entity : Int} {err : AccessError}
    (h : e.check entity = .error err) : err = .entity entity e.capacity := by
  rw [check] at h
  split at h <;> cases h
  rfl

lemma check_natCast {e : Entities} {entity : Nat} (h : entity < e.capacity) :
    e.check entity = .ok entity := by
  rw [check, if_pos (by omega)]
  simp

lemma span_eq {e : Entities} {entity field n : Nat} (he : entity < e.capacity)
    (hf : field + n ≤ e.recordCells) :
    e.span entity field n = .ok (entity * e.recordCells + field) := by
  simp [span, check_natCast he, bind, Except.bind, show ¬ e.recordCells < field + n by omega,
    pure, Except.pure]

lemma span_cases (e : Entities) (entity field n : Nat) :
    (e.span entity field n = .error (.entity entity e.capacity)) ∨
    (e.span entity field n = .error (.field field n e.recordCells)) ∨
    (entity < e.capacity ∧ field + n ≤ e.recordCells ∧
      e.span entity field n = .ok (entity * e.recordCells + field)) := by
  by_cases he : entity < e.capacity
  · by_cases hf : field + n ≤ e.recordCells
    · exact .inr (.inr ⟨he, hf, span_eq he hf⟩)
    · refine .inr (.inl ?_)
      simp [span, check_natCast he, bind, Except.bind, show e.recordCells < field + n by omega,
        throw, throwThe, MonadExceptOf.throw]
  · refine .inl ?_
    simp [span, check, bind, Except.bind, show ¬ (entity : Int) < e.capacity by omega]

lemma span_fits {e : Entities} (hw : e.Whole) {entity field n start : Nat}
    (h : e.span entity field n = .ok start) : start + n ≤ e.cells.size := by
  rcases span_cases e entity field n with h' | h' | ⟨he, hf, h'⟩
  · simp [h'] at h
  · simp [h'] at h
  · obtain rfl : entity * e.recordCells + field = start := by simpa [h'] using h
    have hm : (entity + 1) * e.recordCells ≤ e.capacity * e.recordCells :=
      Nat.mul_le_mul_right _ he
    rw [Nat.add_mul, Nat.one_mul] at hm
    rw [Whole] at hw
    omega

lemma locate_fits {e : Entities} {byte : Cell} {n cell : Nat} (h : e.locate byte n = .ok cell) :
    cell + n ≤ e.cells.size := by
  simp only [locate] at h
  split at h
  · cases h
  · cases h
    omega

lemma field_cases {e : Entities} (hw : e.Whole) (entity field n : Nat) :
    (e.field entity field n = .error (.entity entity e.capacity)) ∨
    (e.field entity field n = .error (.field field n e.recordCells)) ∨
    ∃ vs, vs.length = n ∧ e.field entity field n = .ok vs := by
  rcases span_cases e entity field n with h | h | ⟨-, -, h⟩
  · exact .inl (by simp [Entities.field, h, bind, Except.bind])
  · exact .inr (.inl (by simp [Entities.field, h, bind, Except.bind]))
  · exact .inr (.inr ⟨_, Cells.length_read (span_fits hw h),
      by simp [Entities.field, h, bind, Except.bind, pure, Except.pure]⟩)

lemma address_cases (e : Entities) (entity field : Nat) :
    (e.address entity field = .error (.entity entity e.capacity)) ∨
    (e.address entity field = .error (.field field 1 e.recordCells)) ∨
    ∃ pointer, e.address entity field = .ok pointer := by
  rcases span_cases e entity field 1 with h | h | ⟨-, -, h⟩
  · exact .inl (by simp [address, h, bind, Except.bind])
  · exact .inr (.inl (by simp [address, h, bind, Except.bind]))
  · exact .inr (.inr ⟨_, by simp [address, h, bind, Except.bind, pure, Except.pure]; rfl⟩)

end Entities

namespace Memory

lemma load_cases (m : Memory) (pointer : Cell) (n : Nat) :
    (∃ raw, m.load pointer n = .error (.pointer raw)) ∨
    ∃ vs, vs.length = n ∧ m.load pointer n = .ok vs := by
  rw [load]
  cases Pointer.target? pointer with
  | none => exact .inl ⟨_, rfl⟩
  | some target =>
    cases target with
    | global cell =>
      by_cases h : cell + n ≤ m.globals.cells.size
      · exact .inr ⟨_, Cells.length_read h, by simp [Globals.read, h, Except.mapError]⟩
      · exact .inl ⟨pointer, by simp [Globals.read, h, Except.mapError]⟩
    | entity byte =>
      cases h : m.entities.locate byte n with
      | error err =>
        simp only [Entities.locate] at h
        split at h <;> cases h
        exact .inl ⟨byte, by simp [Entities.load, Entities.locate, *, bind, Except.bind]⟩
      | ok cell =>
        exact .inr ⟨_, Cells.length_read (Entities.locate_fits h),
          by simp [Entities.load, h, bind, Except.bind, pure, Except.pure]⟩

lemma store_cases (m : Memory) (pointer : Cell) (vs : List Cell) :
    (∃ raw, store pointer vs m = .error (.pointer raw) m) ∨
    ∃ m', m'.SameShape m ∧ store pointer vs m = .ok () m' := by
  rw [store]
  cases Pointer.target? pointer with
  | none => exact .inl ⟨_, rfl⟩
  | some target =>
    cases target with
    | global cell =>
      by_cases h : cell + vs.length ≤ m.globals.cells.size
      · refine .inr ⟨{ m with globals := ⟨Cells.write m.globals.cells cell vs⟩ },
          ⟨by simp, rfl, rfl, rfl⟩, ?_⟩
        simp [EStateM.adaptExcept, onGlobals, Globals.write, h]
      · exact .inl ⟨pointer, by simp [EStateM.adaptExcept, onGlobals, Globals.write, h]⟩
    | entity byte =>
      cases h : m.entities.locate byte vs.length with
      | error err =>
        have h' := h
        simp only [Entities.locate] at h'
        split at h' <;> cases h'
        exact .inl ⟨byte, by simp [onEntities, Entities.store, h]⟩
      | ok cell =>
        refine .inr ⟨{ m with entities :=
          { m.entities with cells := Cells.write m.entities.cells cell vs } },
          ⟨rfl, by simp, rfl, rfl⟩, ?_⟩
        simp [onEntities, Entities.store, h]

end Memory

end GameVm
