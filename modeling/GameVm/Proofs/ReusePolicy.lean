import GameVm.Proofs.EntityAllocation
import GameVm.Proofs.FloatOrder

/-! When a record that was given back is handed out again. -/

namespace GameVm

namespace Entities

open Binary32

/-- The entity has been taken back at time `t`, neither it nor everything has been taken back since,
and nobody holds it. -/
def Released (e : Entities) (ops : List Op) (entity : Nat) (t : Cell) : Prop :=
  (∃ before since e', ops = before ++ .free entity t :: since ∧
    Entities.free entity t (e.after before) = .ok () e' ∧
    .clear ∉ since ∧ ∀ t', .free entity t' ∉ since) ∧
  ¬ e.Held ops entity

/-- The entity was given back and may be handed out again: at once during the first two seconds, and
half a second later after these. -/
def Rested (e : Entities) (ops : List Op) (now : Cell) (entity : Nat) : Prop :=
  ∃ t, e.Released ops entity t ∧ (value now < 2 ∨ 1 / 2 < value now - value t)

def ExactSub (x y : Cell) : Prop :=
  IsFinite (sub x y) ∧ value (sub x y) = value x - value y

variable {e : Entities} {entity : Nat} {now t : Cell}

section Released

lemma released_snoc (e : Entities) (ops : List Op) (op : Op) (entity : Nat) (t : Cell) :
    e.Released (ops ++ [op]) entity t ↔
      (op = .free entity t ∧ ∃ e', Entities.free entity t (e.after ops) = .ok () e') ∨
      (e.Released ops entity t ∧ op ≠ .clear ∧ (∀ t', op ≠ .free entity t') ∧
        ¬ ∃ now e', op = .alloc now ∧ Entities.alloc now (e.after ops) = .ok entity e') := by
  rw [Released, held_snoc]
  constructor
  · rintro ⟨⟨before, since, e', hops, hf, hc, hno⟩, hheld⟩
    rcases snoc_eq_append_cons_iff.mp hops with ⟨rfl, rfl, rfl⟩ | ⟨since', rfl, rfl⟩
    · exact .inl ⟨rfl, e', hf⟩
    · simp only [List.mem_append, List.mem_singleton, not_or] at hc hno
      have hclear := Ne.symm hc.2
      have hfree (t') := Ne.symm (hno t').2
      refine .inr ⟨⟨⟨before, since', e', rfl, hf, hc.1, fun t' => (hno t').1⟩, ?_⟩,
        hclear, hfree, ?_⟩
      · exact fun h => hheld (.inr ⟨h, hclear, hfree⟩)
      · exact fun h => hheld (.inl h)
  · rintro (⟨rfl, e', hf⟩ | ⟨⟨⟨before, since, e', rfl, hf, hc, hno⟩, hheld⟩, hclear, hfree, ha⟩)
    · refine ⟨⟨ops, [], e', rfl, hf, by simp, by simp⟩, ?_⟩
      simp
    · refine ⟨⟨before, since ++ [op], e', by simp, hf, ?_, fun t' => ?_⟩, ?_⟩
      · simp [hc, Ne.symm hclear]
      · simp [hno t', Ne.symm (hfree t')]
      · rintro (h | ⟨h, -⟩)
        · exact ha h
        · exact hheld h

def Resting (e : Entities) (entity : Nat) (t : Cell) : Prop :=
  entity ≠ world ∧ entity < e.inUse ∧ e.slots[entity]? = some ⟨true, t⟩

lemma le_inUse_of_alloc {e' : Entities} (h : alloc now e = .ok entity e') : entity ≤ e.inUse := by
  rw [alloc] at h
  cases hn : e.next? now with
  | none => simp [hn] at h
  | some found =>
    obtain ⟨rfl, -⟩ : found = entity ∧ _ := by simpa [hn] using h
    rcases next?_cases hn with ⟨-, hlt, -⟩ | ⟨rfl, -⟩
    · exact hlt.le
    · exact le_rfl

lemma resting_handedOut_self : ¬ (e.handedOut entity).Resting entity t := by
  rintro ⟨-, -, hs⟩
  rw [slots_handedOut, if_pos rfl, Option.map_eq_some_iff] at hs
  obtain ⟨slot, -, hs⟩ := hs
  simp at hs

lemma resting_handedOut_of_ne {found : Nat} (hle : found ≤ e.inUse) (hne : entity ≠ found) :
    (e.handedOut found).Resting entity t ↔ e.Resting entity t := by
  have hlt : entity < (e.handedOut found).inUse ↔ entity < e.inUse := by
    change entity < max e.inUse (found + 1) ↔ _
    omega
  rw [Resting, Resting, slots_handedOut_of_ne hne, hlt]

lemma resting_takenBack_self (he : e.Managed) (hne : entity ≠ world) (hlt : entity < e.inUse) :
    (e.takenBack entity now).Resting entity t ↔ now = t := by
  have hin : entity < e.slots.size := he.slots ▸ hlt.trans_le he.le
  rw [Resting, slots_takenBack now hin]
  constructor
  · rintro ⟨-, -, hs⟩
    simpa using hs
  · rintro rfl
    exact ⟨hne, hlt, rfl⟩

lemma resting_takenBack_of_ne {back : Nat} (hne : entity ≠ back) :
    (e.takenBack back now).Resting entity t ↔ e.Resting entity t := by
  rw [Resting, slots_takenBack_of_ne now hne]
  rfl

lemma not_resting_fresh (capacity recordCells entity : Nat) (t : Cell) :
    ¬ (fresh capacity recordCells).Resting entity t := by
  rintro ⟨hne, hlt, -⟩
  exact hne (Nat.lt_one_iff.mp hlt)

lemma resting_apply (he : e.Managed) (op : Op) :
    (op.apply e).Resting entity t ↔
      (op = .free entity t ∧ ∃ e', Entities.free entity t e = .ok () e') ∨
      (e.Resting entity t ∧ op ≠ .clear ∧ (∀ t', op ≠ .free entity t') ∧
        ¬ ∃ now e', op = .alloc now ∧ Entities.alloc now e = .ok entity e') := by
  rcases apply_cases he op with ⟨cells, hc, ha, hclear, hfree, halloc⟩ |
    ⟨now, found, rfl, hpos, hlt, halloc, ha⟩ | ⟨back, now, rfl, hback, hlt, ha⟩ | rfl
  · have hsame : (op.apply e).Resting entity t ↔ e.Resting entity t := by
      rw [ha]
      rfl
    rw [hsame]
    constructor
    · rintro ⟨hne, hlt, hs⟩
      refine .inr ⟨⟨hne, hlt, hs⟩, hclear, ?_, ?_⟩
      · rintro t' rfl
        rcases hfree entity t' rfl with hw | hu
        · exact hne hw
        · omega
      · rintro ⟨now, e', rfl, hok⟩
        simp [halloc now rfl] at hok
    · rintro (⟨rfl, e', hok⟩ | ⟨h, -⟩)
      · have hor := hfree entity t rfl
        rcases free_cases e entity t with ⟨-, err, hfail⟩ | ⟨hne, hlt, -⟩
        · simp [hfail] at hok
        · omega
      · exact h
  · rw [ha]
    by_cases heq : entity = found
    · subst heq
      simp [resting_handedOut_self, halloc]
    · rw [resting_handedOut_of_ne (le_inUse_of_alloc halloc) heq]
      simp [halloc, Ne.symm heq]
  · rw [ha]
    by_cases heq : entity = back
    · subst heq
      rcases free_cases e entity now with ⟨hor, -⟩ | ⟨-, -, hok⟩
      · omega
      · rw [resting_takenBack_self he hback hlt]
        constructor
        · rintro rfl
          exact .inl ⟨rfl, _, hok⟩
        · rintro (⟨hop, -⟩ | ⟨-, -, hno, -⟩)
          · cases hop
            rfl
          · exact absurd rfl (hno now)
    · rw [resting_takenBack_of_ne heq]
      simp [Ne.symm heq]
  · rw [Op.apply, he.clear_eq_fresh]
    exact iff_of_false (not_resting_fresh _ _ _ _) (by simp)

lemma released_iff (capacity recordCells : Nat) (ops : List Op) (entity : Nat) (t : Cell) :
    (fresh capacity recordCells).Released ops entity t ↔
      ((fresh capacity recordCells).after ops).Resting entity t := by
  induction ops using List.reverseRecOn with
  | nil =>
    constructor
    · rintro ⟨⟨before, since, e', hops, -⟩, -⟩
      simp at hops
    · intro h
      exact absurd h (not_resting_fresh capacity recordCells entity t)
  | append_singleton ops op ih =>
    rw [released_snoc, ih, after_append]
    exact (resting_apply ((managed_fresh capacity recordCells).after ops) op).symm

end Released

section Policy

lemma value_startupGrace : value startupGrace = 2 := by
  norm_num [value, show isNegative startupGrace = false by decide,
    show significand startupGrace = 2 ^ 23 by decide, show scale startupGrace = -22 by decide]

lemma value_reuseDelay : value reuseDelay = 1 / 2 := by
  norm_num [value, show isNegative reuseDelay = false by decide,
    show significand reuseDelay = 2 ^ 23 by decide, show scale reuseDelay = -24 by decide]

lemma reusable_iff (hnow : IsFinite now) (hexact : ∀ t, e.Resting entity t → ExactSub now t)
    (hne : entity ≠ world) (hlt : entity < e.inUse) :
    e.reusable now entity = true ↔
      ∃ t, e.Resting entity t ∧ (value now < 2 ∨ 1 / 2 < value now - value t) := by
  have hgrace := lt_iff_value_lt hnow (y := startupGrace) (by decide)
  rw [value_startupGrace] at hgrace
  have hdelay (t) (h : e.Resting entity t) :
      lt reuseDelay (sub now t) = true ↔ 1 / 2 < value now - value t := by
    obtain ⟨hfin, hval⟩ := hexact t h
    rw [lt_iff_value_lt (by decide) hfin, value_reuseDelay, hval]
  rw [reusable]
  constructor
  · intro h
    cases hs : e.slots[entity]? with
    | none => simp [hs] at h
    | some slot =>
      simp only [hs, Bool.and_eq_true, Bool.or_eq_true] at h
      obtain ⟨hfree, hor⟩ := h
      have hrest : e.Resting entity slot.freedAt := ⟨hne, hlt, by rw [hs, ← hfree]⟩
      rw [hgrace, hdelay _ hrest] at hor
      exact ⟨_, hrest, hor⟩
  · rintro ⟨t, hrest, hor⟩
    rw [← hgrace, ← hdelay t hrest] at hor
    rw [hrest.2.2]
    simpa using hor

lemma alloc_of_next? (h : e.next? now = some entity) :
    alloc now e = .ok entity (e.handedOut entity) := by
  rw [alloc, h]
  rfl

lemma next?_cases_lowest (e : Entities) (now : Cell) :
    (∃ entity, e.next? now = some entity ∧ entity ≠ world ∧ entity < e.inUse ∧
      e.reusable now entity = true ∧
      ∀ i, i ≠ world → i < entity → e.reusable now i = false) ∨
    ((∀ i, i ≠ world → i < e.inUse → e.reusable now i = false) ∧
      e.next? now = if e.inUse < e.capacity then some e.inUse else none) := by
  rw [next?]
  cases hf : (List.range' 1 (e.inUse - 1)).find? (e.reusable now) with
  | some entity =>
    obtain ⟨hr, hmem, hlow⟩ := List.find?_range'_eq_some.mp hf
    rw [List.mem_range'_1] at hmem
    refine .inl ⟨entity, rfl, Nat.one_le_iff_ne_zero.mp hmem.1, by omega, hr, ?_⟩
    intro i hne hlt
    simpa using hlow i (Nat.one_le_iff_ne_zero.mpr hne) hlt
  | none =>
    refine .inr ⟨fun i hne hlt => ?_, rfl⟩
    have hpos := Nat.one_le_iff_ne_zero.mpr hne
    simpa using List.find?_range'_eq_none.mp hf i hpos (by omega)

lemma rested_iff (capacity recordCells : Nat) (ops : List Op) (hnow : IsFinite now)
    (hexact : ∀ i t, (fresh capacity recordCells).Released ops i t → ExactSub now t)
    (entity : Nat) :
    let e := (fresh capacity recordCells).after ops
    (fresh capacity recordCells).Rested ops now entity ↔
      entity ≠ world ∧ entity < e.inUse ∧ e.reusable now entity = true := by
  intro e
  simp only [Rested, released_iff] at hexact ⊢
  constructor
  · rintro ⟨t, hrest, hor⟩
    exact ⟨hrest.1, hrest.2.1,
      (reusable_iff hnow (hexact entity) hrest.1 hrest.2.1).mpr ⟨t, hrest, hor⟩⟩
  · rintro ⟨hne, hlt, hr⟩
    exact (reusable_iff hnow (hexact entity) hne hlt).mp hr

lemma rested_iff_released_early {ops : List Op}
    (hpast : ∀ t, e.Released ops entity t → value t ≤ value now)
    (hout : value now < 2 ∨ 5 / 2 ≤ value now) :
    e.Rested ops now entity ↔
      ∃ t, e.Released ops entity t ∧ (value t < 2 ∨ 1 / 2 < value now - value t) := by
  apply exists_congr
  intro t
  apply and_congr_right
  intro hrel
  have hle := hpast t hrel
  constructor
  · rintro (h | h)
    · exact .inl (hle.trans_lt h)
    · exact .inr h
  · rintro (h | h)
    · rcases hout with hout | hout
      · exact .inl hout
      · exact .inr (by linarith)
    · exact .inr h

/-- The grace period is measured at the time of the request, not at that of the release; only when
the request comes right after the period does that make a difference. -/
theorem alloc_takes_lowest_rested (capacity recordCells : Nat) (ops : List Op) (now : Cell)
    (hnow : IsFinite now)
    (hexact : ∀ i t, (fresh capacity recordCells).Released ops i t → ExactSub now t) :
    let start := fresh capacity recordCells
    let e := start.after ops
    (match alloc now e with
      | .ok entity e' =>
        (start.Rested ops now entity ∧ 1 ≤ entity ∧ entity < e.inUse ∧
          (∀ i, start.Rested ops now i → entity ≤ i) ∧ e'.inUse = e.inUse) ∨
        ((∀ i, ¬ start.Rested ops now i) ∧ entity = e.inUse ∧ e.inUse < e.capacity ∧
          e'.inUse = e.inUse + 1)
      | .error err e' =>
        (∀ i, ¬ start.Rested ops now i) ∧ e.inUse = e.capacity ∧
          err = .entitiesExhausted e.capacity ∧ e' = e) ∧
    ((∀ i t, start.Released ops i t → value t ≤ value now) →
      value now < 2 ∨ 5 / 2 ≤ value now → ∀ i, start.Rested ops now i ↔
        ∃ t, start.Released ops i t ∧ (value t < 2 ∨ 1 / 2 < value now - value t)) := by
  intro start e
  have hm : e.Managed := (managed_fresh capacity recordCells).after ops
  have hrest := rested_iff capacity recordCells ops hnow hexact
  refine ⟨?_, ?_⟩
  · rcases next?_cases_lowest e now with ⟨entity, hn, hne, hlt, hr, hlow⟩ | ⟨hno, hn⟩
    · rw [alloc_of_next? hn]
      refine .inl ⟨(hrest entity).mpr ⟨hne, hlt, hr⟩, Nat.one_le_iff_ne_zero.mpr hne, hlt, ?_, ?_⟩
      · intro i hi
        obtain ⟨hi, -, hri⟩ := (hrest i).mp hi
        by_contra hle
        exact absurd hri (Bool.eq_false_iff.mp (hlow i hi (by omega)))
      · exact max_eq_left hlt
    · have hnone (i) : ¬ start.Rested ops now i := by
        intro hi
        obtain ⟨hne, hlt, hr⟩ := (hrest i).mp hi
        exact absurd hr (Bool.eq_false_iff.mp (hno i hne hlt))
      rw [alloc, hn]
      split_ifs with hlt
      · exact .inr ⟨hnone, rfl, hlt, max_eq_right (Nat.le_succ _)⟩
      · exact ⟨hnone, Nat.le_antisymm hm.le (Nat.le_of_not_lt hlt), rfl, rfl⟩
  · intro hpast hout i
    exact rested_iff_released_early (hpast i) hout

theorem record_rests_half_second :
    let start := fresh 4 1
    let ops : List Op := [.alloc 0x41200000, .alloc 0x41200000, .free 1 0x41200000]
    (start.Released ops 1 0x41200000 ∧ value 0x41200000 = 10) ∧
    (value 0x41240000 = 10 + 1 / 4 ∧ ∀ i, ¬ start.Rested ops 0x41240000 i) ∧
    (value 0x412C0000 = 10 + 3 / 4 ∧ start.Rested ops 0x412C0000 1) := by
  intro start ops
  have hfirst : (start.after ops).slots[1]? = some ⟨true, 0x41200000⟩ := by decide +kernel
  have hsecond : (start.after ops).slots[2]? = some ⟨false, 0⟩ := by decide +kernel
  have hrel (i t) (h : start.Released ops i t) : t = 0x41200000 := by
    obtain ⟨hne, hlt, hs⟩ := (released_iff 4 1 ops i t).mp h
    have hlt : i < 3 := hlt
    interval_cases i
    · exact absurd rfl hne
    · obtain rfl : 0x41200000 = t := by simpa using hfirst.symm.trans hs
      rfl
    · simpa using hsecond.symm.trans hs
  have hsoon := (alloc_takes_lowest_rested 4 1 ops 0x41240000 (by decide)
    (fun i t h => hrel i t h ▸ ⟨by decide +kernel, by decide +kernel⟩)).1
  have hlate := (alloc_takes_lowest_rested 4 1 ops 0x412C0000 (by decide)
    (fun i t h => hrel i t h ▸ ⟨by decide +kernel, by decide +kernel⟩)).1
  have hthird : (start.after ops).next? 0x41240000 = some 3 := by decide +kernel
  have hagain : (start.after ops).next? 0x412C0000 = some 1 := by decide +kernel
  have hused : (start.after ops).inUse = 3 := rfl
  refine ⟨⟨(released_iff 4 1 ops 1 _).mpr ⟨by decide, by decide, hfirst⟩, by decide +kernel⟩,
    ⟨by decide +kernel, ?_⟩, by decide +kernel, ?_⟩
  · rw [alloc_of_next? hthird] at hsoon
    rcases hsoon with ⟨-, -, hlt, -⟩ | ⟨hnone, -⟩
    · exact absurd hlt (by rw [hused]; decide)
    · exact hnone
  · rw [alloc_of_next? hagain] at hlate
    rcases hlate with ⟨hrested, -⟩ | ⟨-, heq, -⟩
    · exact hrested
    · exact absurd heq (by rw [hused]; decide)

theorem late_release_rests :
    let start := fresh 4 1
    let ops : List Op := [.alloc 0, .free 1 0x3FE00000]
    start.Released ops 1 0x3FE00000 ∧ value 0x3FE00000 = 7 / 4 ∧ value 0x40000000 = 2 ∧
    ∃ e', alloc 0x40000000 (start.after ops) = .ok 2 e' := by
  intro start ops
  have hnext : (start.after ops).next? 0x40000000 = some 2 := by decide +kernel
  exact ⟨(released_iff 4 1 ops 1 _).mpr ⟨by decide, by decide +kernel, by decide +kernel⟩,
    by decide +kernel, by decide +kernel, _, alloc_of_next? hnext⟩

end Policy

end Entities

end GameVm
