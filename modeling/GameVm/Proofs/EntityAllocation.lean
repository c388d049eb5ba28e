import GameVm.Proofs.Handover
import GameVm.Proofs.Overwrites

/-! Entity records are handed out and taken back: whatever is done in between, a record that
somebody holds is not handed out again. -/

namespace GameVm

namespace Cells

lemma read_write_of_ge {cells : Array Cell} {i n j : Nat} {vs : List Cell}
    (h : j + vs.length ≤ i) (hv : j + vs.length ≤ cells.size) :
    read (write cells j vs) i n = read cells i n := by
  apply List.ext_getElem?
  intro k
  rw [getElem?_read, getElem?_read, getElem?_write _ _ _ _ hv]
  by_cases hk : k < n
  · rw [if_pos hk, if_pos hk, if_neg (by omega)]
  · rw [if_neg hk, if_neg hk]

end Cells

namespace Entities

inductive Op where
  | alloc (now : Cell)
  | free (entity : Nat) (now : Cell)
  | clear
  | setField (entity field : Nat) (values : List Cell)
  | store (byte : Cell) (values : List Cell)
  deriving DecidableEq

def Op.apply : Op → Entities → Entities
  | .alloc now => leftBy (Entities.alloc now)
  | .free entity now => leftBy (Entities.free entity now)
  | .clear => Entities.clear
  | .setField entity field values => leftBy (Entities.setField entity field values)
  | .store byte values => leftBy (Entities.store byte values)

def after (e : Entities) (ops : List Op) : Entities := ops.foldl (fun e op => op.apply e) e

lemma after_append (e : Entities) (ops ops' : List Op) :
    e.after (ops ++ ops') = (e.after ops).after ops' := List.foldl_append

/-- The entity has been handed out and, since then, neither it nor everything has been taken
back. -/
def Held (e : Entities) (ops : List Op) (entity : Nat) : Prop :=
  ∃ before now since e', ops = before ++ .alloc now :: since ∧
    Entities.alloc now (e.after before) = .ok entity e' ∧
    .clear ∉ since ∧ ∀ now', .free entity now' ∉ since

/-- Every record has a slot, the world is in use, and what has never been handed out is free. -/
structure Managed (e : Entities) : Prop where
  whole : e.Whole
  record : 1 ≤ e.recordCells
  slots : e.slots.size = e.capacity
  pos : 1 ≤ e.inUse
  le : e.inUse ≤ e.capacity
  world : ∃ slot, e.slots[Entities.world]? = some slot ∧ slot.free = false
  fresh : ∀ k slot, e.inUse ≤ k → e.slots[k]? = some slot → slot.free = true

variable {e : Entities}

lemma isFree_eq_false_iff (he : e.Managed) {entity : Nat} :
    e.isFree entity = false ↔ ∃ slot, e.slots[entity]? = some slot ∧ slot.free = false := by
  rw [isFree]
  cases hs : e.slots[entity]? with
  | none => simp
  | some slot =>
    have hfresh := he.fresh entity slot
    by_cases hu : e.inUse ≤ entity
    · simp [hu, hfresh hu hs]
    · simp [hu]

lemma isFree_congr {e' : Entities} (he : e.Managed) (he' : e'.Managed) {entity : Nat}
    (h : e'.slots[entity]? = e.slots[entity]?) : e'.isFree entity = e.isFree entity := by
  apply Bool.eq_iff_iff.mpr
  rw [← not_iff_not, Bool.not_eq_true, Bool.not_eq_true, isFree_eq_false_iff he',
    isFree_eq_false_iff he, h]

section Records

lemma record_eq (e : Entities) (entity : Nat) : e.record entity =
    if entity < e.capacity then .ok (Cells.read e.cells (entity * e.recordCells) e.recordCells)
    else .error (.entity entity e.capacity) := by
  rw [record, field]
  split_ifs with h
  · rw [span_eq h (Nat.zero_add _).le]
    rfl
  · have hs : e.span entity 0 e.recordCells = .error (.entity entity e.capacity) := by
      simp [span, check, bind, Except.bind, show ¬ (entity : Int) < e.capacity by omega]
    rw [hs]
    rfl

lemma record_fits (hw : e.Whole) {entity : Nat} (h : entity < e.capacity) :
    entity * e.recordCells + e.recordCells ≤ e.cells.size := by
  rw [Whole] at hw
  have hle : (entity + 1) * e.recordCells ≤ e.capacity * e.recordCells :=
    Nat.mul_le_mul_right _ h
  rw [Nat.add_mul, Nat.one_mul] at hle
  omega

lemma record_apart {entity other : Nat} (n : Nat) (h : other ≠ entity) :
    other * n + n ≤ entity * n ∨ entity * n + n ≤ other * n := by
  rcases Nat.lt_or_gt_of_ne h with hlt | hlt
  · left
    rw [← Nat.succ_mul]
    exact Nat.mul_le_mul_right n hlt
  · right
    rw [← Nat.succ_mul]
    exact Nat.mul_le_mul_right n hlt

lemma record_clearRecord (hw : e.Whole) {entity : Nat} (h : entity < e.capacity) :
    (e.clearRecord entity).record entity = .ok (List.replicate e.recordCells 0) := by
  have hfit : entity * e.recordCells + (List.replicate e.recordCells (0 : Cell)).length ≤
      e.cells.size := by
    simpa using record_fits hw h
  have hread := Cells.read_write_self hfit
  rw [List.length_replicate] at hread
  rw [record_eq, clearRecord, if_pos h, hread]

lemma record_clearRecord_of_ne (hw : e.Whole) {entity other : Nat} (h : entity < e.capacity)
    (hne : other ≠ entity) : (e.clearRecord entity).record other = e.record other := by
  have hfit := record_fits hw h
  rw [record_eq, record_eq, clearRecord]
  dsimp only
  split_ifs
  · rcases record_apart e.recordCells hne with hle | hle
    · rw [Cells.read_write_of_le hle (by simpa using hfit)]
    · rw [Cells.read_write_of_ge (by simpa using hle) (by simpa using hfit)]
  · rfl

end Records

section Alloc

variable {now : Cell} {entity : Nat}

lemma next?_cases (h : e.next? now = some entity) :
    (1 ≤ entity ∧ entity < e.inUse ∧ e.reusable now entity = true) ∨
      (entity = e.inUse ∧ e.inUse < e.capacity) := by
  rw [next?] at h
  cases hf : (List.range' 1 (e.inUse - 1)).find? (e.reusable now) with
  | some found =>
    obtain rfl : found = entity := by simpa [hf] using h
    have hmem := List.mem_of_find?_eq_some hf
    rw [List.mem_range'_1] at hmem
    exact .inl ⟨hmem.1, by omega, List.find?_some hf⟩
  | none =>
    simp only [hf] at h
    split_ifs at h with hlt
    cases h
    exact .inr ⟨rfl, hlt⟩

def handedOut (e : Entities) (entity : Nat) : Entities :=
  { e.clearRecord entity with
    inUse := max e.inUse (entity + 1)
    slots := e.slots.modify entity fun slot => { slot with free := false } }

lemma alloc_cases (he : e.Managed) (now : Cell) :
    (e.inUse = e.capacity ∧ alloc now e = .error (.entitiesExhausted e.capacity) e) ∨
    ∃ entity slot, 1 ≤ entity ∧ entity < e.capacity ∧ e.slots[entity]? = some slot ∧
      slot.free = true ∧ alloc now e = .ok entity (e.handedOut entity) := by
  rw [alloc]
  cases hn : e.next? now with
  | none =>
    refine .inl ⟨Nat.le_antisymm he.le (Nat.le_of_not_lt fun hlt => ?_), rfl⟩
    rw [next?] at hn
    split at hn
    · simp at hn
    · simp [hlt] at hn
  | some entity =>
    have hcap := he.le
    have hslots := he.slots
    right
    rcases next?_cases hn with ⟨hpos, hlt, hr⟩ | ⟨rfl, hlt⟩
    · have hs : e.slots[entity]? = some e.slots[entity] := by simp
      refine ⟨entity, _, hpos, by omega, hs, ?_, rfl⟩
      simp only [reusable, hs, Bool.and_eq_true] at hr
      exact hr.1
    · have hs : e.slots[e.inUse]? = some e.slots[e.inUse] := by simp
      exact ⟨e.inUse, _, he.pos, hlt, hs, he.fresh _ _ le_rfl hs, rfl⟩

lemma slots_handedOut (e : Entities) (entity k : Nat) : (e.handedOut entity).slots[k]? =
    if entity = k then e.slots[k]?.map fun slot => { slot with free := false }
    else e.slots[k]? := Array.getElem?_modify

lemma slots_handedOut_of_ne {other : Nat} (h : other ≠ entity) :
    (e.handedOut entity).slots[other]? = e.slots[other]? := by
  rw [slots_handedOut, if_neg (Ne.symm h)]

lemma Managed.handedOut (he : e.Managed) (hpos : 1 ≤ entity) (hlt : entity < e.capacity) :
    (e.handedOut entity).Managed where
  whole := by
    have hw := he.whole
    rw [Whole] at hw ⊢
    rw [Entities.handedOut, clearRecord, Cells.size_write, hw]
  record := he.record
  slots := Array.size_modify.trans he.slots
  pos := he.pos.trans (le_max_left _ _)
  le := max_le he.le hlt
  world := by
    obtain ⟨slot, hs, hf⟩ := he.world
    refine ⟨slot, ?_, hf⟩
    rw [slots_handedOut_of_ne (by rw [Entities.world]; omega), hs]
  fresh := by
    intro k slot hk hs
    have hk : max e.inUse (entity + 1) ≤ k := hk
    rw [slots_handedOut_of_ne (by omega)] at hs
    exact he.fresh k slot (by omega) hs

lemma isFree_handedOut (he : e.Managed) (hpos : 1 ≤ entity) (hlt : entity < e.capacity) :
    (e.handedOut entity).isFree entity = false := by
  have hlt' : entity < e.slots.size := he.slots ▸ hlt
  have hs : e.slots[entity]? = some e.slots[entity] := by simp
  rw [isFree_eq_false_iff (he.handedOut hpos hlt), slots_handedOut, if_pos rfl, hs]
  exact ⟨_, rfl, rfl⟩

end Alloc

section Free

variable {entity : Nat}

def takenBack (e : Entities) (entity : Nat) (now : Cell) : Entities :=
  { e.clearRecord entity with slots := e.slots.setIfInBounds entity ⟨true, now⟩ }

lemma free_cases (e : Entities) (entity : Nat) (now : Cell) :
    ((entity = world ∨ e.inUse ≤ entity) ∧ ∃ err, free entity now e = .error err e) ∨
    (entity ≠ world ∧ entity < e.inUse ∧ free entity now e = .ok () (e.takenBack entity now)) := by
  rw [free]
  split_ifs with hw hu
  · exact .inl ⟨.inl hw, _, rfl⟩
  · exact .inl ⟨.inr hu, _, rfl⟩
  · exact .inr ⟨hw, by omega, rfl⟩

lemma slots_takenBack_of_ne {other : Nat} (now : Cell) (h : other ≠ entity) :
    (e.takenBack entity now).slots[other]? = e.slots[other]? := by
  rw [takenBack]
  exact Array.getElem?_setIfInBounds_ne (Ne.symm h)

lemma slots_takenBack (now : Cell) (h : entity < e.slots.size) :
    (e.takenBack entity now).slots[entity]? = some ⟨true, now⟩ :=
  Array.getElem?_setIfInBounds_self_of_lt h

lemma Managed.takenBack (he : e.Managed) (hne : entity ≠ Entities.world) (hlt : entity < e.inUse)
    (now : Cell) : (e.takenBack entity now).Managed where
  whole := by
    have hw := he.whole
    rw [Whole] at hw ⊢
    rw [Entities.takenBack, clearRecord, Cells.size_write, hw]
  record := he.record
  slots := Array.size_setIfInBounds.trans he.slots
  pos := he.pos
  le := he.le
  world := by
    obtain ⟨slot, hs, hf⟩ := he.world
    refine ⟨slot, ?_, hf⟩
    rw [slots_takenBack_of_ne now (Ne.symm hne), hs]
  fresh := by
    intro k slot hk hs
    have hk : e.inUse ≤ k := hk
    rw [slots_takenBack_of_ne now (by omega)] at hs
    exact he.fresh k slot hk hs

lemma isFree_takenBack (he : e.Managed) (hlt : entity < e.inUse) (now : Cell) :
    (e.takenBack entity now).isFree entity = true := by
  have hle := he.le
  rw [isFree, slots_takenBack now (by rw [he.slots]; omega)]
  rfl

end Free

section Fresh

lemma slots_fresh (capacity recordCells k : Nat) : (fresh capacity recordCells).slots[k]? =
    if k < max capacity 1 then some ⟨k ≠ world, 0⟩ else none := by
  simp only [fresh, Array.getElem?_setIfInBounds, Array.size_replicate, Array.getElem?_replicate]
  by_cases hk : world = k
  · subst hk
    simp [world]
  · simp [hk, Ne.symm hk]

lemma managed_fresh (capacity recordCells : Nat) : (fresh capacity recordCells).Managed where
  whole := by simp [Whole, fresh]
  record := le_max_right _ _
  slots := by simp [fresh]
  pos := le_rfl
  le := le_max_right _ _
  world := ⟨⟨false, 0⟩, by simp [slots_fresh, Entities.world], rfl⟩
  fresh := by
    intro k slot hk hs
    have hk : 1 ≤ k := hk
    rw [slots_fresh] at hs
    split_ifs at hs
    obtain rfl : _ = slot := by simpa using hs
    have hne : k ≠ Entities.world := by
      rw [Entities.world]
      omega
    simp [hne]

lemma isFree_fresh (capacity recordCells entity : Nat) :
    (fresh capacity recordCells).isFree entity = false ↔ entity = world := by
  rw [isFree_eq_false_iff (managed_fresh capacity recordCells), slots_fresh]
  constructor
  · rintro ⟨slot, hs, hf⟩
    split_ifs at hs
    cases hs
    simpa using hf
  · rintro rfl
    exact ⟨⟨false, 0⟩, by simp [world], rfl⟩

end Fresh

section Step

lemma Managed.clear_eq_fresh (he : e.Managed) : e.clear = Entities.fresh e.capacity e.recordCells :=
  Entities.clear_eq_fresh he.whole he.slots (he.pos.trans he.le) he.record

lemma Managed.withCells (he : e.Managed) {cells : Array Cell} (h : cells.size = e.cells.size) :
    Managed { e with cells } :=
  ⟨h.trans he.whole, he.record, he.slots, he.pos, he.le, he.world, he.fresh⟩

lemma apply_cases (he : e.Managed) (op : Op) :
    (∃ cells : Array Cell, cells.size = e.cells.size ∧ op.apply e = { e with cells } ∧
      op ≠ .clear ∧ (∀ entity now, op = .free entity now → entity = world ∨ e.inUse ≤ entity) ∧
      ∀ now, op = .alloc now → Entities.alloc now e = .error (.entitiesExhausted e.capacity) e) ∨
    (∃ now entity, op = .alloc now ∧ 1 ≤ entity ∧ entity < e.capacity ∧
      Entities.alloc now e = .ok entity (e.handedOut entity) ∧ op.apply e = e.handedOut entity) ∨
    (∃ entity now, op = .free entity now ∧ entity ≠ world ∧ entity < e.inUse ∧
      op.apply e = e.takenBack entity now) ∨
    op = .clear := by
  cases op with
  | alloc now =>
    rcases alloc_cases he now with ⟨-, h⟩ | ⟨entity, slot, hpos, hlt, -, -, h⟩
    · refine .inl ⟨e.cells, rfl, leftBy_of_error h, by simp, by simp, ?_⟩
      intro now' hop
      cases hop
      exact h
    · exact .inr (.inl ⟨now, entity, rfl, hpos, hlt, h, leftBy_of_ok h⟩)
  | free entity now =>
    rcases free_cases e entity now with ⟨hor, err, h⟩ | ⟨hne, hlt, h⟩
    · refine .inl ⟨e.cells, rfl, leftBy_of_error h, by simp, ?_, by simp⟩
      intro entity' now' hop
      cases hop
      exact hor
    · exact .inr (.inr (.inl ⟨entity, now, rfl, hne, hlt, leftBy_of_ok h⟩))
  | clear => exact .inr (.inr (.inr rfl))
  | setField entity field values =>
    left
    rw [Op.apply, leftBy, setField]
    cases e.span entity field values.length with
    | ok start => exact ⟨_, Cells.size_write .., rfl, by simp, by simp, by simp⟩
    | error err => exact ⟨e.cells, rfl, rfl, by simp, by simp, by simp⟩
  | store byte values =>
    left
    rw [Op.apply, leftBy, store]
    cases e.locate byte values.length with
    | ok cell => exact ⟨_, Cells.size_write .., rfl, by simp, by simp, by simp⟩
    | error err => exact ⟨e.cells, rfl, rfl, by simp, by simp, by simp⟩

lemma Managed.apply (he : e.Managed) (op : Op) : (op.apply e).Managed := by
  rcases apply_cases he op with ⟨cells, hc, ha, -⟩ | ⟨now, entity, -, hpos, hlt, -, ha⟩ |
    ⟨entity, now, -, hne, hlt, ha⟩ | rfl
  · rw [ha]
    exact he.withCells hc
  · rw [ha]
    exact he.handedOut hpos hlt
  · rw [ha]
    exact he.takenBack hne hlt now
  · rw [Op.apply, he.clear_eq_fresh]
    exact managed_fresh ..

lemma capacity_apply (he : e.Managed) (op : Op) :
    (op.apply e).capacity = e.capacity ∧ (op.apply e).recordCells = e.recordCells := by
  rcases apply_cases he op with ⟨cells, -, ha, -⟩ | ⟨now, entity, -, -, -, -, ha⟩ |
    ⟨entity, now, -, -, -, ha⟩ | rfl
  · rw [ha]
    exact ⟨rfl, rfl⟩
  · rw [ha]
    exact ⟨rfl, rfl⟩
  · rw [ha]
    exact ⟨rfl, rfl⟩
  · exact ⟨rfl, rfl⟩

end Step

section History

lemma Managed.after (he : e.Managed) (ops : List Op) : (e.after ops).Managed := by
  induction ops generalizing e with
  | nil => exact he
  | cons op ops ih => exact ih (he.apply op)

lemma capacity_after (he : e.Managed) (ops : List Op) :
    (e.after ops).capacity = e.capacity ∧ (e.after ops).recordCells = e.recordCells := by
  induction ops generalizing e with
  | nil => exact ⟨rfl, rfl⟩
  | cons op ops ih =>
    obtain ⟨hcap, hrec⟩ := capacity_apply he op
    obtain ⟨hcap', hrec'⟩ := ih (he.apply op)
    exact ⟨hcap'.trans hcap, hrec'.trans hrec⟩

lemma snoc_eq_append_cons_iff {α : Type} {xs before since : List α} {x y : α} :
    xs ++ [x] = before ++ y :: since ↔
      (xs = before ∧ x = y ∧ since = []) ∨
      ∃ since', since = since' ++ [x] ∧ xs = before ++ y :: since' := by
  constructor
  · intro h
    rcases List.eq_nil_or_concat since with rfl | ⟨since', last, rfl⟩
    · obtain ⟨rfl, hx⟩ := List.append_inj' h rfl
      exact .inl ⟨rfl, by simpa using hx, rfl⟩
    · rw [List.concat_eq_append, ← List.cons_append, ← List.append_assoc] at h
      obtain ⟨rfl, hx⟩ := List.append_inj' h rfl
      obtain rfl : x = last := by simpa using hx
      exact .inr ⟨since', by simp, rfl⟩
  · rintro (⟨rfl, rfl, rfl⟩ | ⟨since', rfl, rfl⟩)
    · rfl
    · simp

lemma held_snoc (e : Entities) (ops : List Op) (op : Op) (entity : Nat) :
    e.Held (ops ++ [op]) entity ↔
      (∃ now e', op = .alloc now ∧ Entities.alloc now (e.after ops) = .ok entity e') ∨
      (e.Held ops entity ∧ op ≠ .clear ∧ ∀ now, op ≠ .free entity now) := by
  constructor
  · rintro ⟨before, now, since, e', hops, ha, hc, hf⟩
    rcases snoc_eq_append_cons_iff.mp hops with ⟨rfl, rfl, rfl⟩ | ⟨since', rfl, rfl⟩
    · exact .inl ⟨now, e', rfl, ha⟩
    · simp only [List.mem_append, List.mem_singleton, not_or] at hc hf
      refine .inr ⟨⟨before, now, since', e', rfl, ha, hc.1, fun now' => (hf now').1⟩, ?_, ?_⟩
      · exact Ne.symm hc.2
      · exact fun now' => Ne.symm (hf now').2
  · rintro (⟨now, e', rfl, ha⟩ | ⟨⟨before, now, since, e', rfl, ha, hc, hf⟩, hclear, hfree⟩)
    · exact ⟨ops, now, [], e', rfl, ha, by simp, by simp⟩
    · refine ⟨before, now, since ++ [op], e', by simp, ha, ?_, fun now' => ?_⟩
      · simp [hc, Ne.symm hclear]
      · simp [hf now', Ne.symm (hfree now')]

lemma isFree_apply (he : e.Managed) (op : Op) {entity : Nat} (hne : entity ≠ world) :
    (op.apply e).isFree entity = false ↔
      (∃ now e', op = .alloc now ∧ Entities.alloc now e = .ok entity e') ∨
      (e.isFree entity = false ∧ op ≠ .clear ∧ ∀ now, op ≠ .free entity now) := by
  have he' := he.apply op
  rcases apply_cases he op with ⟨cells, hc, ha, hclear, hfree, halloc⟩ |
    ⟨now, found, rfl, hpos, hlt, halloc, ha⟩ | ⟨back, now, rfl, hback, hlt, ha⟩ | rfl
  · have hsame : (op.apply e).isFree entity = e.isFree entity := by
      rw [ha]
      rfl
    rw [hsame]
    constructor
    · intro hf
      refine .inr ⟨hf, hclear, ?_⟩
      rintro now rfl
      -- a record that is not free is in use, and taking that one back does not fail
      rcases hfree entity now rfl with hw | hu
      · exact hne hw
      · obtain ⟨slot, hs, hsf⟩ := (isFree_eq_false_iff he).mp hf
        simp [he.fresh entity slot hu hs] at hsf
    · rintro (⟨now, e', rfl, hok⟩ | ⟨hf, -⟩)
      · simp [halloc now rfl] at hok
      · exact hf
  · rw [ha]
    by_cases heq : entity = found
    · subst heq
      exact iff_of_true (isFree_handedOut he hpos hlt) (.inl ⟨now, _, rfl, halloc⟩)
    · rw [isFree_congr he (ha ▸ he') (slots_handedOut_of_ne heq)]
      simp [halloc, Ne.symm heq]
  · rw [ha]
    by_cases heq : entity = back
    · subst heq
      simp [isFree_takenBack he hlt now]
    · rw [isFree_congr he (ha ▸ he') (slots_takenBack_of_ne now heq)]
      simp [Ne.symm heq]
  · have hfresh : (Op.clear.apply e).isFree entity = false ↔ entity = world := by
      rw [Op.apply, he.clear_eq_fresh]
      exact isFree_fresh ..
    simp [hfresh, hne]

/-- The entities that are not free are the world and those that are held. -/
lemma held_iff (capacity recordCells : Nat) (ops : List Op) (entity : Nat) :
    (fresh capacity recordCells).Held ops entity ↔
      entity ≠ world ∧ ((fresh capacity recordCells).after ops).isFree entity = false := by
  induction ops using List.reverseRecOn with
  | nil =>
    have hfresh := isFree_fresh capacity recordCells entity
    constructor
    · rintro ⟨before, now, since, e', hops, -⟩
      simp at hops
    · rintro ⟨hne, hf⟩
      exact absurd (hfresh.mp hf) hne
  | append_singleton ops op ih =>
    have he := (managed_fresh capacity recordCells).after ops
    rw [held_snoc, ih, after_append]
    by_cases hne : entity = world
    · subst hne
      constructor
      · rintro (⟨now, e', -, ha⟩ | ⟨⟨hne, -⟩, -⟩)
        · rcases alloc_cases he now with ⟨-, h⟩ | ⟨found, slot, hpos, -, -, -, h⟩
          · simp [ha] at h
          · obtain ⟨rfl, -⟩ : world = found ∧ _ := by simpa [ha] using h
            exact absurd hpos (by decide)
        · exact absurd rfl hne
      · rintro ⟨hne, -⟩
        exact absurd rfl hne
    · rw [and_iff_right hne, and_iff_right hne]
      exact (isFree_apply he op hne).symm

theorem alloc_hands_out_unheld_records (capacity recordCells : Nat) (ops : List Op) :
    let start := fresh capacity recordCells
    let e := start.after ops
    e.capacity = max capacity 1 ∧ e.recordCells = max recordCells 1 ∧ e.Managed ∧
    (∀ now, match alloc now e with
      | .ok entity e' =>
        1 ≤ entity ∧ entity < e.capacity ∧ e.isFree entity = true ∧ ¬ start.Held ops entity ∧
        e'.isFree entity = false ∧ e'.record entity = .ok (List.replicate e.recordCells 0) ∧
        ∀ other, other ≠ entity → e'.record other = e.record other ∧
          e'.slots[other]? = e.slots[other]? ∧ e'.isFree other = e.isFree other
      | .error err e' =>
        err = .entitiesExhausted e.capacity ∧ e.inUse = e.capacity ∧ e' = e) ∧
    (∀ entity now, match free entity now e with
      | .ok _ e' => entity ≠ world ∧ entity < e.inUse ∧ e'.isFree entity = true
      | .error _ e' => (entity = world ∨ e.inUse ≤ entity) ∧ e' = e) ∧
    ∀ entity, start.Held ops entity ↔ entity ≠ world ∧ e.isFree entity = false := by
  intro start e
  have hm : e.Managed := (managed_fresh capacity recordCells).after ops
  have hheld := held_iff capacity recordCells ops
  obtain ⟨hcap, hrec⟩ := capacity_after (managed_fresh capacity recordCells) ops
  refine ⟨hcap, hrec, hm, fun now => ?_, fun entity now => ?_, hheld⟩
  · rcases alloc_cases hm now with ⟨hfull, ha⟩ | ⟨entity, slot, hpos, hlt, hs, hf, ha⟩
    · rw [ha]
      exact ⟨rfl, hfull, rfl⟩
    · have hfree : e.isFree entity = true := by simp [isFree, hs, hf]
      have hm' := hm.handedOut hpos hlt
      rw [ha]
      refine ⟨hpos, hlt, hfree, ?_, isFree_handedOut hm hpos hlt,
        record_clearRecord hm.whole hlt, fun other hne => ?_⟩
      · intro h
        have hlive := ((hheld entity).mp h).2
        exact absurd (hlive.symm.trans hfree) (by decide)
      · have hslot := slots_handedOut_of_ne (e := e) hne
        exact ⟨record_clearRecord_of_ne hm.whole hlt hne, hslot, isFree_congr hm hm' hslot⟩
  · rcases free_cases e entity now with ⟨hor, err, hfail⟩ | ⟨hne, hlt, hok⟩
    · rw [hfail]
      exact ⟨hor, rfl⟩
    · rw [hok]
      exact ⟨hne, hlt, isFree_takenBack hm hlt now⟩

end History

end Entities

end GameVm
