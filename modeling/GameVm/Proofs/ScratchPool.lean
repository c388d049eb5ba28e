import GameVm.Proofs.KeptStrings

/-! The pool of strings is written slot by slot, so that a string in it lasts for one round. -/

namespace GameVm

lemma Bytes.untilZero_take (bs : Bytes) (n : Nat) :
    Bytes.untilZero (bs.untilZero.take n) = bs.untilZero.take n := by
  apply List.takeWhile_eq_self_iff.mpr
  intro b hb
  have hmem : b ∈ bs.takeWhile (fun b => decide (b ≠ 0)) := List.mem_of_mem_take hb
  have hne := List.mem_takeWhile_imp hmem
  exact hne

namespace StringTable

def scratchWrites : List Op → Nat
  | [] => 0
  | .newScratch _ :: ops => scratchWrites ops + 1
  | _ :: ops => scratchWrites ops

def scratchHandles (t : StringTable) : List Op → List Int32
  | [] => []
  | .newScratch bytes :: ops =>
    (newScratch bytes t).1 :: (newScratch bytes t).2.scratchHandles ops
  | op :: ops => (op.apply t).scratchHandles ops

def slotAfter (t : StringTable) (k : Nat) : Nat := (t.nextScratch + k) % t.poolSize

section Slots

variable {t : StringTable}

lemma slotAfter_zero (ht : t.Tidy) : t.slotAfter 0 = t.nextScratch :=
  Nat.mod_eq_of_lt ht.next

lemma slotAfter_lt (ht : t.Tidy) (k : Nat) : t.slotAfter k < t.poolSize :=
  Nat.mod_lt _ (Nat.zero_lt_of_lt ht.next)

lemma slotAfter_poolSize (ht : t.Tidy) : t.slotAfter t.poolSize = t.nextScratch := by
  rw [slotAfter, Nat.add_mod_right, Nat.mod_eq_of_lt ht.next]

lemma slotAfter_inj {j k : Nat} (hj : j < t.poolSize) (hk : k < t.poolSize)
    (h : t.slotAfter j = t.slotAfter k) : j = k := by
  have hmod : j ≡ k [MOD t.poolSize] := Nat.ModEq.add_left_cancel' t.nextScratch h
  rwa [Nat.ModEq, Nat.mod_eq_of_lt hj, Nat.mod_eq_of_lt hk] at hmod

lemma slotAfter_newScratch (bytes : Bytes) (k : Nat) :
    (newScratch bytes t).2.slotAfter k = t.slotAfter (k + 1) := by
  simp only [slotAfter, newScratch, poolSize, Array.size_setIfInBounds, Nat.mod_add_mod]
  congr 1
  omega

end Slots

section Handles

variable {t : StringTable} {slot : Nat}

lemma toInt_scratchHandle (h : slot < 2 ^ 31) : (scratchHandle slot).toInt = -(slot : Int) - 1 :=
  Int32.toInt_ofInt_of_le (by omega) (by omega)

lemma scratchHandle_inj {other : Nat} (h : slot < 2 ^ 31) (h' : other < 2 ^ 31)
    (he : scratchHandle slot = scratchHandle other) : slot = other := by
  have hint := congrArg Int32.toInt he
  rw [toInt_scratchHandle h, toInt_scratchHandle h'] at hint
  omega

lemma resolve_of_negSucc {handle : Int32} (hh : handle.toInt = .negSucc slot)
    (hs : slot < t.poolSize) :
    t.resolve handle = .ok (t.scratch[slot]?.getD []).untilZero := by
  simp only [resolve, kind?, hh, if_pos hs]

lemma resolve_scratchHandle (hs : slot < t.poolSize) (hp : t.poolSize ≤ 2 ^ 31) :
    t.resolve (scratchHandle slot) = .ok (t.scratch[slot]?.getD []).untilZero := by
  apply resolve_of_negSucc _ hs
  rw [toInt_scratchHandle (by omega), Int.negSucc_eq]
  omega

end Handles

section Step

variable {t : StringTable} {op : Op}

lemma pool_cases (t : StringTable) (h : op ≠ .reset) (ops : List Op) :
    (∃ bytes, op = .newScratch bytes) ∨
    ((op.apply t).scratch = t.scratch ∧ (op.apply t).nextScratch = t.nextScratch ∧
      scratchWrites (op :: ops) = scratchWrites ops ∧
      t.scratchHandles (op :: ops) = (op.apply t).scratchHandles ops) := by
  cases op with
  | newScratch bytes => exact .inl ⟨bytes, rfl⟩
  | persist bytes =>
    have hs : ((Op.persist bytes).apply t).scratch = t.scratch ∧
        ((Op.persist bytes).apply t).nextScratch = t.nextScratch := by
      rw [Op.apply, persist]
      cases t.vacant <;> exact ⟨rfl, rfl⟩
    exact .inr ⟨hs.1, hs.2, rfl, rfl⟩
  | release handle =>
    have hs : ((Op.release handle).apply t).scratch = t.scratch ∧
        ((Op.release handle).apply t).nextScratch = t.nextScratch := by
      rw [Op.apply]
      rcases release_cases t handle with ⟨-, hr⟩ | ⟨slot, text, -, -, hr⟩ <;> rw [hr] <;>
        exact ⟨rfl, rfl⟩
    exact .inr ⟨hs.1, hs.2, rfl, rfl⟩
  | resolve handle => exact .inr ⟨rfl, rfl, rfl, rfl⟩
  | findConstant text => exact .inr ⟨rfl, rfl, rfl, rfl⟩
  | reset => exact absurd rfl h

lemma slotAfter_congr {t' : StringTable} (hs : t'.scratch = t.scratch)
    (hn : t'.nextScratch = t.nextScratch) (k : Nat) : t'.slotAfter k = t.slotAfter k := by
  rw [slotAfter, slotAfter, poolSize, poolSize, hs, hn]

lemma scratchSize_apply (t : StringTable) (op : Op) : (op.apply t).scratchSize = t.scratchSize := by
  cases op with
  | persist bytes =>
    rw [Op.apply, persist]
    cases t.vacant <;> rfl
  | release handle =>
    rw [Op.apply]
    rcases release_cases t handle with ⟨-, hr⟩ | ⟨slot, text, -, -, hr⟩ <;> rw [hr]
  | _ => rfl

def Drained (t : StringTable) : Prop := ∀ slot < t.poolSize, t.scratch[slot]? = some []

lemma drained_reset (t : StringTable) : t.reset.Drained := by
  intro slot hs
  have hs : slot < t.scratch.size := by simpa [StringTable.reset, poolSize] using hs
  simp [StringTable.reset, hs]

lemma Drained.apply (h : t.Drained) {op : Op} (hop : scratchWrites [op] = 0) :
    (op.apply t).Drained := by
  by_cases hr : op = .reset
  · subst hr
    exact drained_reset t
  · rcases pool_cases t hr [] with ⟨bytes, rfl⟩ | ⟨hs, -⟩
    · cases hop
    · intro slot hlt
      rw [poolSize, hs] at hlt
      rw [hs]
      exact h slot hlt

end Step

section Rounds

variable {t : StringTable} {ops : List Op}

lemma scratchSize_after (t : StringTable) (ops : List Op) :
    (t.after ops).scratchSize = t.scratchSize := by
  induction ops generalizing t with
  | nil => rfl
  | cons op ops ih => exact (ih (op.apply t)).trans (scratchSize_apply t op)

lemma scratchWrites_cons (op : Op) (ops : List Op) :
    scratchWrites (op :: ops) = scratchWrites [op] + scratchWrites ops := by
  cases op with
  | newScratch bytes => exact Nat.add_comm ..
  | _ => exact (Nat.zero_add _).symm

lemma Drained.after (h : t.Drained) (hops : scratchWrites ops = 0) : (t.after ops).Drained := by
  induction ops generalizing t with
  | nil => exact h
  | cons op ops ih =>
    rw [scratchWrites_cons, Nat.add_eq_zero_iff] at hops
    exact ih (h.apply hops.1) hops.2

lemma slotAfter_after (hreset : .reset ∉ ops) (k : Nat) :
    (t.after ops).slotAfter k = t.slotAfter (k + scratchWrites ops) := by
  induction ops generalizing t with
  | nil => rfl
  | cons op ops ih =>
    rw [List.mem_cons, not_or] at hreset
    have hops := ih (t := op.apply t) hreset.2
    rcases pool_cases t (Ne.symm hreset.1) ops with ⟨bytes, rfl⟩ | ⟨hs, hn, hwrites, -⟩
    · exact hops.trans (slotAfter_newScratch bytes _)
    · rw [hwrites, ← slotAfter_congr hs hn]
      exact hops

lemma scratch_after {slot : Nat} (hreset : .reset ∉ ops)
    (hturn : ∀ k < scratchWrites ops, t.slotAfter k ≠ slot) (ht : t.Tidy) :
    (t.after ops).scratch[slot]? = t.scratch[slot]? := by
  induction ops generalizing t with
  | nil => rfl
  | cons op ops ih =>
    rw [List.mem_cons, not_or] at hreset
    have ht' := ht.apply op
    rcases pool_cases t (Ne.symm hreset.1) ops with ⟨bytes, rfl⟩ | ⟨hs, hn, hwrites, -⟩
    · have hfirst : t.nextScratch ≠ slot := by
        rw [← slotAfter_zero ht]
        exact hturn 0 (Nat.succ_pos _)
      have hlater : ∀ k < scratchWrites ops, (newScratch bytes t).2.slotAfter k ≠ slot := by
        intro k hk
        rw [slotAfter_newScratch]
        exact hturn (k + 1) (Nat.succ_lt_succ hk)
      exact (ih hreset.2 hlater ht').trans (Array.getElem?_setIfInBounds_ne hfirst)
    · rw [hwrites] at hturn
      have hlater : ∀ k < scratchWrites ops, (op.apply t).slotAfter k ≠ slot := by
        intro k hk
        rw [slotAfter_congr hs hn]
        exact hturn k hk
      exact (ih hreset.2 hlater ht').trans (congrArg (·[slot]?) hs)

lemma scratchHandles_eq (hreset : .reset ∉ ops) (ht : t.Tidy) :
    t.scratchHandles ops =
      (List.range (scratchWrites ops)).map fun k => scratchHandle (t.slotAfter k) := by
  induction ops generalizing t with
  | nil => rfl
  | cons op ops ih =>
    rw [List.mem_cons, not_or] at hreset
    have hops := ih hreset.2 (ht.apply op)
    rcases pool_cases t (Ne.symm hreset.1) ops with ⟨bytes, rfl⟩ | ⟨hs, hn, hwrites, hhandles⟩
    · rw [scratchHandles, scratchWrites, List.range_succ_eq_map, List.map_cons, List.map_map,
        slotAfter_zero ht]
      congr 1
      rw [show (newScratch bytes t).2 = (Op.newScratch bytes).apply t from rfl, hops]
      apply List.map_congr_left
      intro k _
      exact congrArg scratchHandle (slotAfter_newScratch bytes k)
    · rw [hhandles, hwrites, hops]
      simp only [slotAfter_congr hs hn]

end Rounds

section Strings

variable {t : StringTable} (bytes : Bytes)

lemma resolve_written (ht : t.Tidy) (hp : t.poolSize ≤ 2 ^ 31) :
    (newScratch bytes t).2.resolve (newScratch bytes t).1 =
      .ok (bytes.untilZero.take t.scratchSize) := by
  have hsize : (newScratch bytes t).2.poolSize = t.poolSize := Array.size_setIfInBounds
  have hlt : t.nextScratch < t.scratch.size := ht.next
  have hlt' : t.nextScratch < (newScratch bytes t).2.poolSize := hsize ▸ ht.next
  have hres := resolve_scratchHandle hlt' (hsize ▸ hp)
  rw [show (newScratch bytes t).1 = scratchHandle t.nextScratch from rfl, hres]
  simp only [newScratch, Array.getElem?_setIfInBounds_self_of_lt hlt, Option.getD_some,
    Bytes.untilZero_take]

lemma resolve_after (ht : t.Tidy) (hp : t.poolSize ≤ 2 ^ 31) {since : List Op}
    (hreset : .reset ∉ since) (hw : scratchWrites since < t.poolSize) :
    ((newScratch bytes t).2.after since).resolve (newScratch bytes t).1 =
      .ok (bytes.untilZero.take t.scratchSize) := by
  have ht' : (newScratch bytes t).2.Tidy := ht.apply (.newScratch bytes)
  have hsize : (newScratch bytes t).2.poolSize = t.poolSize := Array.size_setIfInBounds
  have hsize' := (poolSize_after _ since).1.trans hsize
  have hturn : ∀ k < scratchWrites since, (newScratch bytes t).2.slotAfter k ≠ t.nextScratch := by
    intro k hk he
    rw [slotAfter_newScratch, ← slotAfter_zero ht] at he
    exact absurd (slotAfter_inj (by omega) (by omega) he) (Nat.succ_ne_zero k)
  have hkept := scratch_after hreset hturn ht'
  have hnow := resolve_scratchHandle (hsize ▸ ht.next) (hsize ▸ hp)
  have hlater := resolve_scratchHandle (hsize' ▸ ht.next) (hsize' ▸ hp)
  rw [← resolve_written bytes ht hp]
  exact (hlater.trans (congrArg (fun s => Except.ok (s.getD []).untilZero) hkept)).trans hnow.symm

lemma newScratch_round (ht : t.Tidy) {since : List Op} (hreset : .reset ∉ since)
    (hw : scratchWrites since + 1 = t.poolSize) (bytes' : Bytes) :
    (newScratch bytes' ((newScratch bytes t).2.after since)).1 = (newScratch bytes t).1 := by
  have ht' : ((newScratch bytes t).2.after since).Tidy := (ht.apply (.newScratch bytes)).after since
  have hslot : ((newScratch bytes t).2.after since).nextScratch = t.nextScratch := by
    rw [← slotAfter_zero ht', slotAfter_after hreset, slotAfter_newScratch, Nat.zero_add, hw,
      slotAfter_poolSize ht]
  exact congrArg scratchHandle hslot

lemma nodup_scratchHandles (ht : t.Tidy) (hp : t.poolSize ≤ 2 ^ 31) {ops : List Op}
    (hreset : .reset ∉ ops) (hw : scratchWrites ops ≤ t.poolSize) :
    (t.scratchHandles ops).Nodup := by
  rw [scratchHandles_eq hreset ht]
  apply List.Nodup.map_on _ List.nodup_range
  intro j hj k hk he
  rw [List.mem_range] at hj hk
  have hjlt := (slotAfter_lt ht j).trans_le hp
  have hklt := (slotAfter_lt ht k).trans_le hp
  have hslot := scratchHandle_inj hjlt hklt he
  exact slotAfter_inj (by omega) (by omega) hslot

lemma mem_scratchHandles (ht : t.Tidy) (hp : t.poolSize ≤ 2 ^ 31) {ops : List Op}
    (hreset : .reset ∉ ops) {handle : Int32} (h : handle ∈ t.scratchHandles ops) :
    -(t.poolSize : Int) ≤ handle.toInt ∧ handle.toInt ≤ -1 := by
  rw [scratchHandles_eq hreset ht, List.mem_map] at h
  obtain ⟨k, -, rfl⟩ := h
  have hlt := slotAfter_lt ht k
  rw [toInt_scratchHandle (hlt.trans_le hp)]
  omega

lemma Drained.resolve (h : t.Drained) {handle : Int32} (hlow : -(t.poolSize : Int) ≤ handle.toInt)
    (hneg : handle.toInt ≤ -1) : t.resolve handle = .ok [] := by
  obtain ⟨slot, hslot⟩ := Int.eq_negSucc_of_lt_zero (show handle.toInt < 0 by omega)
  have hlt : slot < t.poolSize := by
    rw [hslot, Int.negSucc_eq] at hlow
    omega
  rw [resolve_of_negSucc hslot hlt, h slot hlt]
  rfl

end Strings

/-- A string of the pool stays readable until the pool has gone round once, counted in writes to the
pool alone; then its handle is handed out again. The handles of one round are all different and are
those right below zero. A reset leaves empty strings under all of them. -/
theorem scratch_string_lasts_one_round (constants : Blob) (pool scratchSize : Nat)
    (hpool : pool ≤ 2 ^ 31) (ops : List Op) :
    let t := (fresh constants pool scratchSize).after ops
    let p := max pool 1
    t.poolSize = p ∧
    (∀ bytes since, .reset ∉ since →
      let handle := (newScratch bytes t).1
      let later := (newScratch bytes t).2.after since
      (scratchWrites since ≤ p - 1 →
        later.resolve handle = .ok (bytes.untilZero.take scratchSize)) ∧
      (scratchWrites since = p - 1 → ∀ bytes', (newScratch bytes' later).1 = handle ∧
        (newScratch bytes' later).2.resolve handle = .ok (bytes'.untilZero.take scratchSize))) ∧
    (∀ since, .reset ∉ since → scratchWrites since = p →
      (t.scratchHandles since).length = p ∧ (t.scratchHandles since).Nodup ∧
      ∀ handle ∈ t.scratchHandles since, -(p : Int) ≤ handle.toInt ∧ handle.toInt ≤ -1) ∧
    ∀ handle : Int32, -(p : Int) ≤ handle.toInt → handle.toInt ≤ -1 →
      ∀ since, scratchWrites since = 0 → (t.reset.after since).resolve handle = .ok [] := by
  intro t p
  have hstart := tidy_fresh constants pool scratchSize
  have ht : t.Tidy := hstart.after ops
  have hfresh : (fresh constants pool scratchSize).poolSize = p := Array.size_replicate
  have hp : t.poolSize = p := (poolSize_after _ ops).1.trans hfresh
  have hsize : t.scratchSize = scratchSize := scratchSize_after _ ops
  have hle : t.poolSize ≤ 2 ^ 31 := by omega
  refine ⟨hp, fun bytes since hreset => ⟨fun hw => ?_, fun hw bytes' => ?_⟩,
    fun since hreset hw => ⟨?_, ?_, fun handle hmem => ?_⟩, fun handle hlow hneg since hw => ?_⟩
  · rw [← hsize]
    exact resolve_after bytes ht hle hreset (by omega)
  · have hround := newScratch_round bytes ht hreset (by omega) bytes'
    have ht' := (ht.apply (.newScratch bytes)).after since
    have hsize' : ((newScratch bytes t).2.after since).scratchSize = scratchSize :=
      (scratchSize_after _ since).trans hsize
    have hle' : ((newScratch bytes t).2.after since).poolSize ≤ 2 ^ 31 :=
      (poolSize_after _ since).1.trans (apply_poolSize t (.newScratch bytes)).1 ▸ hle
    refine ⟨hround, ?_⟩
    rw [← hround, ← hsize']
    exact resolve_written bytes' ht' hle'
  · rw [scratchHandles_eq hreset ht, List.length_map, List.length_range, hw]
  · exact nodup_scratchHandles ht hle hreset (by omega)
  · rw [← hp]
    exact mem_scratchHandles ht hle hreset hmem
  · have hpool' := ((poolSize_after _ since).1).trans (apply_poolSize t .reset).1
    apply ((drained_reset t).after hw).resolve _ hneg
    rw [← hp] at hlow
    exact hpool' ▸ hlow

theorem two_slots_last_one_round :
    let t := (fresh #[0] 2 3).after [.newScratch [7], .reset, .persist [1], .newScratch [8]]
    (2 : Nat) ≤ 2 ^ 31 ∧ (newScratch [1, 2, 3, 4] t).1 = -2 ∧
    ((newScratch [1, 2, 3, 4] t).2.after
      [.persist [5], .newScratch [6], .release (-3)]).resolve (-2) = .ok [1, 2, 3] ∧
    (newScratch [9, 0, 9] ((newScratch [1, 2, 3, 4] t).2.after [.newScratch [6]])).1 = -2 ∧
    (t.scratchHandles [.newScratch [1], .resolve 0, .newScratch [2]]).Nodup ∧
    (t.reset.after [.persist [5]]).resolve (-2) = .ok [] := by
  intro t
  obtain ⟨-, hlasts, hround, hreset⟩ := scratch_string_lasts_one_round #[0] 2 3 (by decide)
    [.newScratch [7], .reset, .persist [1], .newScratch [8]]
  have hsecond : (newScratch [1, 2, 3, 4] t).1 = -2 := by decide +kernel
  refine ⟨by decide, hsecond, ?_, ?_, ?_, ?_⟩
  · rw [← hsecond]
    exact (hlasts [1, 2, 3, 4] [.persist [5], .newScratch [6], .release (-3)] (by decide)).1
      (by decide)
  · rw [← hsecond]
    exact ((hlasts [1, 2, 3, 4] [.newScratch [6]] (by decide)).2 (by decide) [9, 0, 9]).1
  · exact (hround [.newScratch [1], .resolve 0, .newScratch [2]] (by decide) (by decide)).2.1
  · exact hreset (-2) (by decide) (by decide) _ (by decide)

end StringTable

end GameVm
