import GameVm.Memory.StringTable
import Mathlib.Data.List.TakeWhile
import Mathlib.Tactic

/-! Kept strings come and go like the blocks of a heap, whatever else is done with the table. -/

namespace GameVm

lemma Bytes.untilZero_untilZero (bs : Bytes) : bs.untilZero.untilZero = bs.untilZero :=
  List.takeWhile_idem

lemma Blob.findFrom_lt {text seen bs : Bytes} {start found : Nat}
    (h : findFrom text start seen bs = some found) : found < start + seen.length + bs.length := by
  induction bs generalizing start seen with
  | nil => cases h
  | cons b bs ih =>
    rw [findFrom] at h
    rw [List.length_cons]
    split_ifs at h
    · cases h
      omega
    · have := ih h
      rw [List.length_nil] at this
      omega
    · have := ih h
      rw [List.length_cons] at this
      omega

namespace StringTable

inductive Op where
  | newScratch (bytes : Bytes)
  | persist (bytes : Bytes)
  | release (handle : Int32)
  | resolve (handle : Int32)
  | findConstant (text : Bytes)
  | reset
  deriving DecidableEq

def Op.apply : Op → StringTable → StringTable
  | .newScratch bytes, t => (StringTable.newScratch bytes t).2
  | .persist bytes, t => (StringTable.persist bytes t).2
  | .release handle, t =>
    match StringTable.release handle t with
    | .ok _ t' => t'
    | .error _ t' => t'
  | .resolve _, t | .findConstant _, t => t
  | .reset, t => t.reset

def after (t : StringTable) (ops : List Op) : StringTable := ops.foldl (fun t op => op.apply t) t

lemma after_append (t : StringTable) (ops ops' : List Op) :
    t.after (ops ++ ops') = (t.after ops).after ops' := List.foldl_append

/-- The handle has been handed out for a kept string and, since then, neither it nor the whole table
has been given back. -/
def Live (t : StringTable) (ops : List Op) (handle : Int32) : Prop :=
  ∃ before bytes since, ops = before ++ .persist bytes :: since ∧
    handle = (persist bytes (t.after before)).1 ∧
    .reset ∉ since ∧ .release handle ∉ since

structure Ledger where
  kept : Nat
  released : Nat
  deriving DecidableEq, Repr

def Ledger.book (t : StringTable) (l : Ledger) : Op → Ledger
  | .persist _ => { l with kept := l.kept + 1 }
  | .release handle =>
    match StringTable.release handle t with
    | .ok .. => { l with released := l.released + 1 }
    | .error .. => l
  | .reset => ⟨0, 0⟩
  | .newScratch _ | .resolve _ | .findConstant _ => l

def ledger (t : StringTable) (l : Ledger) : List Op → Ledger
  | [] => l
  | op :: ops => (op.apply t).ledger (l.book t op) ops

/-- Every handle of the table has a number of 32 bits. -/
structure Fits (t : StringTable) : Prop where
  constants : t.constants.size ≤ 2 ^ 31
  runtime : t.poolSize + t.persistent.size ≤ 2 ^ 31

instance (t : StringTable) : Decidable t.Fits :=
  decidable_of_iff (t.constants.size ≤ 2 ^ 31 ∧ t.poolSize + t.persistent.size ≤ 2 ^ 31)
    ⟨fun h => ⟨h.1, h.2⟩, fun h => ⟨h.1, h.2⟩⟩

def HasRoom (t : StringTable) (ops : List Op) : Prop :=
  ∀ k ≤ ops.length, (t.after (ops.take k)).Fits

instance (t : StringTable) (ops : List Op) : Decidable (t.HasRoom ops) :=
  inferInstanceAs (Decidable (∀ k ≤ ops.length, (t.after (ops.take k)).Fits))

/-- The next pool slot exists, and the vacant slots are the empty ones. -/
structure Tidy (t : StringTable) : Prop where
  next : t.nextScratch < t.poolSize
  vacant : ∀ slot, slot ∈ t.vacant ↔ t.persistent[slot]? = some none
  nodup : t.vacant.Nodup

def kept? (t : StringTable) (handle : Int32) : Option Bytes :=
  match t.kind? handle with
  | some (.persistent slot) => t.persistent[slot]?.join
  | _ => none

section Handles

variable {t : StringTable} {handle : Int32} {slot : Nat}

lemma kind?_eq_persistent_iff : t.kind? handle = some (.persistent slot) ↔
    handle.toInt = -(t.poolSize : Int) - 1 - slot ∧ slot < t.persistent.size := by
  rw [kind?]
  cases handle.toInt with
  | ofNat offset =>
    rw [Int.ofNat_eq_natCast]
    refine iff_of_false (fun h => ?_) (by omega)
    dsimp only at h
    split_ifs at h
    cases h
  | negSucc n =>
    dsimp only
    rw [Int.negSucc_eq]
    split_ifs with hscratch hslot
    · exact iff_of_false (fun h => by cases h) (by omega)
    · rw [Option.some.injEq, StringKind.persistent.injEq]
      omega
    · exact iff_of_false (fun h => by cases h) (by omega)

lemma kept?_eq_some_iff {bytes : Bytes} : t.kept? handle = some bytes ↔
    ∃ slot : Nat, handle.toInt = -(t.poolSize : Int) - 1 - slot ∧
      t.persistent[slot]? = some (some bytes) := by
  constructor
  · intro h
    rw [kept?] at h
    split at h
    case h_1 slot hk =>
      exact ⟨slot, (kind?_eq_persistent_iff.mp hk).1, Option.join_eq_some_iff.mp h⟩
    case h_2 => cases h
  · rintro ⟨slot, hh, hs⟩
    have hlt : slot < t.persistent.size := (Array.getElem?_eq_some_iff.mp hs).1
    rw [kept?, kind?_eq_persistent_iff.mpr ⟨hh, hlt⟩]
    exact Option.join_eq_some_iff.mpr hs

lemma kept?_newScratch (bytes : Bytes) (handle : Int32) :
    (newScratch bytes t).2.kept? handle = t.kept? handle := by
  have hp : (newScratch bytes t).2.poolSize = t.poolSize := Array.size_setIfInBounds
  ext text
  rw [kept?_eq_some_iff, kept?_eq_some_iff, hp]
  rfl

lemma kept?_fresh (constants : Blob) (pool scratchSize : Nat) (handle : Int32) :
    (fresh constants pool scratchSize).kept? handle = none := by
  rw [Option.eq_none_iff_forall_ne_some]
  intro text h
  obtain ⟨slot, -, hs⟩ := kept?_eq_some_iff.mp h
  simp [fresh] at hs

lemma resolve_of_kept? {bytes : Bytes} (h : t.kept? handle = some bytes) :
    t.resolve handle = .ok bytes.untilZero := by
  obtain ⟨slot, hh, hs⟩ := kept?_eq_some_iff.mp h
  have hlt : slot < t.persistent.size := (Array.getElem?_eq_some_iff.mp hs).1
  simp only [resolve, kind?_eq_persistent_iff.mpr ⟨hh, hlt⟩, hs]

lemma toInt_persistentHandle (h : t.poolSize + slot < 2 ^ 31) :
    (t.persistentHandle slot).toInt = -(t.poolSize : Int) - 1 - slot :=
  Int32.toInt_ofInt_of_le (by omega) (by omega)

lemma eq_persistentHandle (h : handle.toInt = -(t.poolSize : Int) - 1 - slot) :
    handle = t.persistentHandle slot := by
  rw [persistentHandle, ← h, Int32.ofInt_toInt]

end Handles

section Persist

variable {t : StringTable} (bytes : Bytes)

lemma persist_slot (ht : t.Tidy) : ∃ slot, (persist bytes t).1 = t.persistentHandle slot ∧
    t.persistent[slot]?.join = none ∧
    ∀ k, (persist bytes t).2.persistent[k]? =
      if slot = k then some (some bytes.untilZero) else t.persistent[k]? := by
  rw [persist]
  cases hv : t.vacant with
  | cons slot vacant =>
    have hs : t.persistent[slot]? = some none := (ht.vacant slot).mp (by simp [hv])
    have hlt : slot < t.persistent.size := (Array.getElem?_eq_some_iff.mp hs).1
    refine ⟨slot, rfl, by simp [hs], fun k => ?_⟩
    rw [Array.getElem?_setIfInBounds, if_pos hlt]
  | nil =>
    refine ⟨t.persistent.size, rfl, by simp, fun k => ?_⟩
    rw [Array.getElem?_push]
    simp only [eq_comm]

@[simp]
lemma persist_poolSize : (persist bytes t).2.poolSize = t.poolSize := by
  rw [persist]
  cases t.vacant <;> rfl

lemma kept?_persist (ht : t.Tidy) {handle : Int32} {text : Bytes}
    (h : t.kept? handle = some text) : (persist bytes t).2.kept? handle = some text := by
  obtain ⟨slot, -, hnone, hs⟩ := persist_slot bytes ht
  obtain ⟨k, hk, hkept⟩ := kept?_eq_some_iff.mp h
  refine kept?_eq_some_iff.mpr ⟨k, by rw [persist_poolSize, hk], ?_⟩
  rw [hs, if_neg]
  · exact hkept
  · rintro rfl
    simp [hkept] at hnone

lemma kept?_of_persist (ht : t.Tidy) {handle : Int32} {text : Bytes}
    (hne : handle ≠ (persist bytes t).1) (h : (persist bytes t).2.kept? handle = some text) :
    t.kept? handle = some text := by
  obtain ⟨slot, hh, -, hs⟩ := persist_slot bytes ht
  obtain ⟨k, hk, hkept⟩ := kept?_eq_some_iff.mp h
  rw [persist_poolSize] at hk
  rw [hs, if_neg] at hkept
  · exact kept?_eq_some_iff.mpr ⟨k, hk, hkept⟩
  · rintro rfl
    exact hne ((eq_persistentHandle hk).trans hh.symm)

lemma kept?_handle (ht : t.Tidy) (hf : (persist bytes t).2.Fits) :
    (persist bytes t).2.kept? (persist bytes t).1 = some bytes.untilZero ∧
      (persist bytes t).1.toInt < -(t.poolSize : Int) ∧ t.kept? (persist bytes t).1 = none := by
  obtain ⟨slot, hh, hnone, hs⟩ := persist_slot bytes ht
  have hself := hs slot
  rw [if_pos rfl] at hself
  have hlt : slot < (persist bytes t).2.persistent.size := (Array.getElem?_eq_some_iff.mp hself).1
  have hfit := hf.runtime
  rw [persist_poolSize] at hfit
  have hint : (persist bytes t).1.toInt = -(t.poolSize : Int) - 1 - slot := by
    rw [hh]
    exact toInt_persistentHandle (by omega)
  refine ⟨kept?_eq_some_iff.mpr ⟨slot, by rw [persist_poolSize, hint], hself⟩, by omega, ?_⟩
  rw [Option.eq_none_iff_forall_ne_some]
  intro text ht
  obtain ⟨k, hk, hkept⟩ := kept?_eq_some_iff.mp ht
  -- As long as handles have room, different slots have different ones.
  obtain rfl : slot = k := by omega
  simp [hkept] at hnone

end Persist

section Release

variable (t : StringTable) (handle : Int32)

lemma release_cases : (t.kept? handle = none ∧ release handle t = .error (.string handle) t) ∨
    ∃ (slot : Nat) (text : Bytes), handle.toInt = -(t.poolSize : Int) - 1 - slot ∧
      t.persistent[slot]? = some (some text) ∧
      release handle t = .ok () { t with
        persistent := t.persistent.setIfInBounds slot none, vacant := slot :: t.vacant } := by
  cases hk : t.kind? handle with
  | none => simp [kept?, release, hk]
  | some kind =>
    cases kind with
    | constant offset => simp [kept?, release, hk]
    | scratch slot => simp [kept?, release, hk]
    | persistent slot =>
      obtain ⟨hh, hlt⟩ := kind?_eq_persistent_iff.mp hk
      cases hs : t.persistent[slot] with
      | none => exact .inl (by simp [kept?, release, hk, hlt, hs])
      | some text => exact .inr ⟨slot, text, hh, by simp [hlt, hs], by simp [release, hk, hlt, hs]⟩

variable {t handle}

lemma release_eq_ok_iff : (∃ t', release handle t = .ok () t') ↔ (t.kept? handle).isSome := by
  rcases release_cases t handle with ⟨hn, hr⟩ | ⟨slot, text, hh, hs, hr⟩
  · simp [hn, hr]
  · have hk : t.kept? handle = some text := kept?_eq_some_iff.mpr ⟨slot, hh, hs⟩
    simp [hk, hr]

lemma kept?_release {other : Int32} {text : Bytes} :
    (Op.release other |>.apply t).kept? handle = some text ↔
      t.kept? handle = some text ∧ handle ≠ other := by
  rw [Op.apply]
  rcases release_cases t other with ⟨hn, hr⟩ | ⟨slot, freed, hh, hs, hr⟩
  · rw [hr]
    refine (and_iff_left_of_imp ?_).symm
    rintro hk rfl
    rw [hn] at hk
    cases hk
  · have hlt : slot < t.persistent.size := (Array.getElem?_eq_some_iff.mp hs).1
    rw [hr, kept?_eq_some_iff, kept?_eq_some_iff]
    constructor
    · rintro ⟨k, hk, hkept⟩
      rw [Array.getElem?_setIfInBounds] at hkept
      by_cases he : slot = k
      · rw [if_pos he, if_pos hlt] at hkept
        cases hkept
      · rw [if_neg he] at hkept
        refine ⟨⟨k, hk, hkept⟩, ?_⟩
        rintro rfl
        exact he (by have : handle.toInt = -(t.poolSize : Int) - 1 - k := hk; omega)
    · rintro ⟨⟨k, hk, hkept⟩, hne⟩
      refine ⟨k, hk, ?_⟩
      rw [Array.getElem?_setIfInBounds, if_neg]
      · exact hkept
      · rintro rfl
        exact hne (Int32.toInt_inj.mp (hk.trans hh.symm))

end Release

section Step

variable {t : StringTable}

lemma apply_poolSize (t : StringTable) (op : Op) :
    (op.apply t).poolSize = t.poolSize ∧ (op.apply t).constants = t.constants := by
  cases op with
  | newScratch bytes => exact ⟨Array.size_setIfInBounds, rfl⟩
  | persist bytes =>
    refine ⟨persist_poolSize bytes, ?_⟩
    rw [Op.apply, persist]
    cases t.vacant <;> rfl
  | release handle =>
    rw [Op.apply]
    rcases release_cases t handle with ⟨-, hr⟩ | ⟨slot, text, -, -, hr⟩
    · rw [hr]
      exact ⟨rfl, rfl⟩
    · rw [hr]
      exact ⟨rfl, rfl⟩
  | resolve handle => exact ⟨rfl, rfl⟩
  | findConstant text => exact ⟨rfl, rfl⟩
  | reset => exact ⟨Array.size_map, rfl⟩

lemma tidy_fresh (constants : Blob) (pool scratchSize : Nat) :
    (fresh constants pool scratchSize).Tidy where
  next := by simp [fresh, poolSize]
  vacant := by simp [fresh]
  nodup := List.nodup_nil

/-- Each part is emptied where it stands; together that is a new table for the same pool. -/
lemma reset_eq_fresh (hpool : 1 ≤ t.poolSize) :
    t.reset = fresh t.constants t.poolSize t.scratchSize := by
  rw [StringTable.reset, fresh, Nat.max_eq_left hpool, poolSize, Array.map_const']

lemma Tidy.persist (ht : t.Tidy) (bytes : Bytes) : (persist bytes t).2.Tidy := by
  rw [StringTable.persist]
  cases hv : t.vacant with
  | nil =>
    refine ⟨ht.next, fun k => ?_, List.nodup_nil⟩
    have hk := ht.vacant k
    rw [hv] at hk
    rw [Array.getElem?_push]
    split_ifs
    · simp
    · exact hk
  | cons slot vacant =>
    have hn := ht.nodup
    rw [hv, List.nodup_cons] at hn
    refine ⟨ht.next, fun k => ?_, hn.2⟩
    have hk := ht.vacant k
    rw [hv, List.mem_cons] at hk
    rw [Array.getElem?_setIfInBounds]
    by_cases he : slot = k
    · subst he
      rw [if_pos rfl]
      split_ifs <;> simp [hn.1]
    · rw [if_neg he, ← hk]
      simp [Ne.symm he]

lemma Tidy.release (ht : t.Tidy) (handle : Int32) : ((Op.release handle).apply t).Tidy := by
  rw [Op.apply]
  rcases release_cases t handle with ⟨-, hr⟩ | ⟨slot, text, -, hs, hr⟩
  · rw [hr]
    exact ht
  · have hlt : slot < t.persistent.size := (Array.getElem?_eq_some_iff.mp hs).1
    have hmem : slot ∉ t.vacant := by simp [ht.vacant, hs]
    rw [hr]
    refine ⟨ht.next, fun k => ?_, List.nodup_cons.mpr ⟨hmem, ht.nodup⟩⟩
    rw [List.mem_cons, ht.vacant, Array.getElem?_setIfInBounds]
    by_cases he : slot = k
    · simp [he ▸ hlt, he]
    · simp [he, Ne.symm he]

lemma Tidy.apply (ht : t.Tidy) (op : Op) : (op.apply t).Tidy := by
  cases op with
  | newScratch bytes =>
    refine ⟨?_, ht.vacant, ht.nodup⟩
    simp only [Op.apply, newScratch, poolSize, Array.size_setIfInBounds]
    exact Nat.mod_lt _ (Nat.zero_lt_of_lt ht.next)
  | persist bytes => exact ht.persist bytes
  | release handle => exact ht.release handle
  | resolve handle => exact ht
  | findConstant text => exact ht
  | reset =>
    rw [Op.apply, reset_eq_fresh (Nat.zero_lt_of_lt ht.next)]
    exact tidy_fresh ..

lemma kept?_apply (ht : t.Tidy) {handle : Int32} {text : Bytes} (h : t.kept? handle = some text)
    {op : Op} (hreset : op ≠ .reset) (hrelease : op ≠ .release handle) :
    (op.apply t).kept? handle = some text := by
  cases op with
  | newScratch bytes => exact (kept?_newScratch bytes handle).trans h
  | persist bytes => exact kept?_persist bytes ht h
  | release other =>
    refine kept?_release.mpr ⟨h, ?_⟩
    rintro rfl
    exact hrelease rfl
  | resolve _ => exact h
  | findConstant _ => exact h
  | reset => exact absurd rfl hreset

lemma live_persist (ht : t.Tidy) (bytes : Bytes) : (persist bytes t).2.live = t.live + 1 := by
  rw [StringTable.persist]
  cases hv : t.vacant with
  | nil => simp [live]
  | cons slot vacant =>
    have hs : t.persistent[slot]? = some none := (ht.vacant slot).mp (by simp [hv])
    obtain ⟨hlt, hs⟩ := Array.getElem?_eq_some_iff.mp hs
    simp [live, Array.setIfInBounds, hlt, Array.countP_set, hs]

lemma live_release {slot : Nat} {text : Bytes} (hs : t.persistent[slot]? = some (some text))
    (vacant : List Nat) :
    live { t with persistent := t.persistent.setIfInBounds slot none, vacant } + 1 = t.live := by
  obtain ⟨hlt, hs⟩ := Array.getElem?_eq_some_iff.mp hs
  have hpos : 0 < t.persistent.countP (·.isSome) :=
    Array.countP_pos_iff.mpr ⟨_, Array.getElem_mem hlt, by simp [hs]⟩
  have hcount := Array.countP_set (p := (·.isSome)) (a := none) hlt
  simp only [live, Array.setIfInBounds, dif_pos hlt, hcount, hs]
  simp
  omega

lemma Ledger.book_balanced (ht : t.Tidy) {l : Ledger} (h : t.live + l.released = l.kept) (op : Op) :
    (op.apply t).live + (l.book t op).released = (l.book t op).kept := by
  cases op with
  | newScratch bytes => exact h
  | persist bytes =>
    have := live_persist ht bytes
    simp only [Op.apply, book]
    omega
  | release handle =>
    simp only [Op.apply, book]
    rcases release_cases t handle with ⟨-, hr⟩ | ⟨slot, text, -, hs, hr⟩
    · simp only [hr]
      exact h
    · have := live_release hs (slot :: t.vacant)
      simp only [hr]
      omega
  | resolve handle => exact h
  | findConstant text => exact h
  | reset => simp [Op.apply, book, StringTable.reset, live]

end Step

section History

variable {t : StringTable}

lemma Tidy.after (ht : t.Tidy) (ops : List Op) : (t.after ops).Tidy := by
  induction ops generalizing t with
  | nil => exact ht
  | cons op ops ih => exact ih (ht.apply op)

lemma poolSize_after (t : StringTable) (ops : List Op) :
    (t.after ops).poolSize = t.poolSize ∧ (t.after ops).constants = t.constants := by
  induction ops generalizing t with
  | nil => exact ⟨rfl, rfl⟩
  | cons op ops ih =>
    have hop := apply_poolSize t op
    have hops := ih (op.apply t)
    exact ⟨hops.1.trans hop.1, hops.2.trans hop.2⟩

lemma kept?_after (ht : t.Tidy) {handle : Int32} {text : Bytes} (h : t.kept? handle = some text)
    {ops : List Op} (hreset : .reset ∉ ops) (hrelease : .release handle ∉ ops) :
    (t.after ops).kept? handle = some text := by
  induction ops generalizing t with
  | nil => exact h
  | cons op ops ih =>
    rw [List.mem_cons, not_or] at hreset hrelease
    exact ih (ht.apply op) (kept?_apply ht h (Ne.symm hreset.1) (Ne.symm hrelease.1)) hreset.2
      hrelease.2

lemma ledger_balanced (ht : t.Tidy) {l : Ledger} (h : t.live + l.released = l.kept)
    (ops : List Op) : (t.after ops).live + (t.ledger l ops).released = (t.ledger l ops).kept := by
  induction ops generalizing t l with
  | nil => exact h
  | cons op ops ih => exact ih (ht.apply op) (Ledger.book_balanced ht h op)

lemma Live.snoc {ops : List Op} {handle : Int32} (h : t.Live ops handle) {op : Op}
    (hreset : op ≠ .reset) (hrelease : op ≠ .release handle) : t.Live (ops ++ [op]) handle := by
  obtain ⟨before, bytes, since, rfl, hh, hr, hf⟩ := h
  refine ⟨before, bytes, since ++ [op], by simp, hh, ?_, ?_⟩
  · simp [hr, Ne.symm hreset]
  · simp [hf, Ne.symm hrelease]

lemma live_of_kept? (constants : Blob) (pool scratchSize : Nat) (ops : List Op) {handle : Int32}
    {text : Bytes} (h : ((fresh constants pool scratchSize).after ops).kept? handle = some text) :
    (fresh constants pool scratchSize).Live ops handle := by
  -- From the last operation backwards, up to the one that handed the handle out.
  induction ops using List.reverseRecOn generalizing text with
  | nil => cases (kept?_fresh ..).symm.trans h
  | append_singleton ops op ih =>
    have ht := (tidy_fresh constants pool scratchSize).after ops
    rw [after_append] at h
    cases op with
    | newScratch bytes =>
      exact (ih ((kept?_newScratch bytes handle).symm.trans h)).snoc (by simp) (by simp)
    | persist bytes =>
      by_cases hne : handle = (persist bytes ((fresh constants pool scratchSize).after ops)).1
      · exact ⟨ops, bytes, [], rfl, hne, by simp, by simp⟩
      · exact (ih (kept?_of_persist bytes ht hne h)).snoc (by simp) (by simp)
    | release other =>
      obtain ⟨hk, hne⟩ := kept?_release.mp h
      exact (ih hk).snoc (by simp) (by simpa using Ne.symm hne)
    | resolve _ => exact (ih h).snoc (by simp) (by simp)
    | findConstant _ => exact (ih h).snoc (by simp) (by simp)
    | reset =>
      change (reset _).kept? handle = some text at h
      rw [reset_eq_fresh (Nat.zero_lt_of_lt ht.next)] at h
      cases (kept?_fresh ..).symm.trans h

end History

section Room

variable {t : StringTable} {ops ops' : List Op}

lemma HasRoom.of_append (h : t.HasRoom (ops ++ ops')) : t.HasRoom ops := by
  intro k hk
  have hf := h k (by rw [List.length_append]; omega)
  rwa [List.take_append_of_le_length hk] at hf

lemma HasRoom.fits (h : t.HasRoom ops) : (t.after ops).Fits := by
  have hf := h ops.length le_rfl
  rwa [List.take_length] at hf

variable {before since : List Op} {bytes : Bytes}

lemma HasRoom.persist (h : t.HasRoom (before ++ .persist bytes :: since)) :
    (persist bytes (t.after before)).2.Fits := by
  rw [List.append_cons] at h
  have hf := h.of_append.fits
  rwa [after_append] at hf

lemma kept?_given (ht : t.Tidy) (h : t.HasRoom (before ++ .persist bytes :: since))
    (hreset : .reset ∉ since) (hrelease : .release (persist bytes (t.after before)).1 ∉ since) :
    (t.after (before ++ .persist bytes :: since)).kept? (persist bytes (t.after before)).1 =
      some bytes.untilZero := by
  have hbefore := ht.after before
  rw [after_append]
  exact kept?_after (hbefore.persist bytes) (kept?_handle bytes hbefore h.persist).1 hreset hrelease

lemma kept?_of_live (ht : t.Tidy) (h : t.HasRoom ops) {handle : Int32} (hl : t.Live ops handle) :
    ((t.after ops).kept? handle).isSome := by
  obtain ⟨before, bytes, since, rfl, rfl, hreset, hrelease⟩ := hl
  rw [kept?_given ht h hreset hrelease]
  rfl

lemma le_newScratch (ht : t.Tidy) (hf : t.poolSize ≤ 2 ^ 31) (bytes : Bytes) :
    -(t.poolSize : Int) ≤ (newScratch bytes t).1.toInt := by
  have := ht.next
  have hint : (scratchHandle t.nextScratch).toInt = -(t.nextScratch : Int) - 1 :=
    Int32.toInt_ofInt_of_le (by omega) (by omega)
  simp only [newScratch, hint]
  omega

lemma findConstant?_nonneg (hf : t.constants.size ≤ 2 ^ 31) {text : Bytes} {handle : Int32}
    (h : t.findConstant? text = some handle) : 0 ≤ handle.toInt := by
  rw [findConstant?] at h
  split_ifs at h
  · cases h
    decide
  · obtain ⟨start, hs, rfl⟩ := Option.map_eq_some_iff.mp h
    have hlt := Blob.findFrom_lt hs
    simp only [List.length_nil, Array.length_toList] at hlt
    rw [Int32.toInt_ofNat_of_lt (by omega)]
    omega

lemma persist_new (ht : t.Tidy) (h : t.HasRoom (before ++ .persist bytes :: since)) :
    ¬ t.Live before (persist bytes (t.after before)).1 ∧
    (∀ ops' bytes', (newScratch bytes' (t.after ops')).1 ≠ (persist bytes (t.after before)).1) ∧
    ∀ ops' text, (t.after ops').findConstant? text ≠ some (persist bytes (t.after before)).1 := by
  obtain ⟨-, hlow, hnone⟩ := kept?_handle bytes (ht.after before) h.persist
  obtain ⟨hpool, hconstants⟩ := poolSize_after t before
  obtain ⟨hfc, hfr⟩ := h.of_append.fits
  rw [hpool] at hlow hfr
  rw [hconstants] at hfc
  refine ⟨fun hl => ?_, fun ops' bytes' he => ?_, fun ops' text he => ?_⟩
  · have hkept := kept?_of_live ht h.of_append hl
    rw [hnone] at hkept
    cases hkept
  · have hsize := (poolSize_after t ops').1
    have hle := le_newScratch (ht.after ops') (by omega) bytes'
    rw [he, hsize] at hle
    omega
  · have hsize := (poolSize_after t ops').2
    have hle := findConstant?_nonneg (by rw [hsize]; exact hfc) he
    omega

end Room

/-- Kept strings behave as a heap of their own. However a table has been used, as long as its
handles have room: the vacant slots are the empty ones, each of them once; a string that is kept
gets a handle that is not in use and that neither the pool nor the constants ever hand out; the
handle stands for the string until it is released or the table is reset; a release succeeds for the
handles in use and changes nothing otherwise; and the strings in use are those kept less those
released since the last reset. -/
theorem kept_strings_form_heap (constants : Blob) (pool scratchSize : Nat) (ops : List Op)
    (hroom : (fresh constants pool scratchSize).HasRoom ops) :
    let start := fresh constants pool scratchSize
    let t := start.after ops
    (t.vacant.Nodup ∧ ∀ slot, slot ∈ t.vacant ↔ t.persistent[slot]? = some none) ∧
    (∀ before bytes since, ops = before ++ .persist bytes :: since →
      let handle := (persist bytes (start.after before)).1
      ¬ start.Live before handle ∧
      (∀ ops' bytes', (newScratch bytes' (start.after ops')).1 ≠ handle) ∧
      (∀ ops' text, (start.after ops').findConstant? text ≠ some handle) ∧
      (.reset ∉ since → .release handle ∉ since → t.resolve handle = .ok bytes.untilZero)) ∧
    (∀ handle, (∃ t', release handle t = .ok () t') ↔ start.Live ops handle) ∧
    (∀ handle err t', release handle t = .error err t' → t' = t) ∧
    t.live + (start.ledger ⟨0, 0⟩ ops).released = (start.ledger ⟨0, 0⟩ ops).kept := by
  intro start t
  have hstart : start.Tidy := tidy_fresh constants pool scratchSize
  have ht : t.Tidy := hstart.after ops
  refine ⟨⟨ht.nodup, ht.vacant⟩, ?_, fun handle => ?_, fun handle err t' hr => ?_,
    ledger_balanced hstart rfl ops⟩
  · rintro before bytes since rfl handle
    obtain ⟨hunused, hscratch, hconstant⟩ := persist_new hstart hroom
    refine ⟨hunused, hscratch, hconstant, fun hreset hrelease => ?_⟩
    rw [resolve_of_kept? (kept?_given hstart hroom hreset hrelease), Bytes.untilZero_untilZero]
  · rw [release_eq_ok_iff]
    refine ⟨fun hk => ?_, kept?_of_live hstart hroom⟩
    obtain ⟨text, hk⟩ := Option.isSome_iff_exists.mp hk
    exact live_of_kept? constants pool scratchSize ops hk
  · rcases release_cases t handle with ⟨-, hr'⟩ | ⟨slot, text, -, -, hr'⟩
    · rw [hr'] at hr
      cases hr
      rfl
    · rw [hr'] at hr
      cases hr

/-- A slot is used again under its old handle, and what the other one holds stays. -/
theorem reused_slot_keeps_others :
    let start := fresh #[0, 104, 105, 0] 1 2
    let ops : List Op := [.persist [1, 2, 0, 3], .persist [4, 5, 6], .release (-2), .release (-2),
      .newScratch [7], .persist [8], .newScratch [9]]
    start.HasRoom ops ∧
    (start.after ops).resolve (-3) = .ok [4, 5, 6] ∧ (start.after ops).resolve (-2) = .ok [8] ∧
    start.Live ops (-2) ∧ ¬ start.Live ops (-4) ∧
    (start.after ops).live + 1 = 3 := by
  intro start ops
  have hroom : start.HasRoom ops := by decide +kernel
  obtain ⟨-, hgiven, hrelease, -, hlive⟩ := kept_strings_form_heap #[0, 104, 105, 0] 1 2 ops hroom
  obtain ⟨-, -, -, hsecond⟩ := hgiven [.persist [1, 2, 0, 3]] [4, 5, 6] _ rfl
  obtain ⟨-, -, -, hthird⟩ := hgiven (ops.take 5) [8] _ rfl
  refine ⟨hroom, hsecond (by decide) (by decide +kernel), hthird (by decide) (by decide +kernel),
    (hrelease _).mp ⟨_, rfl⟩, fun hl => ?_, hlive⟩
  obtain ⟨t', ht'⟩ := (hrelease _).mpr hl
  cases ht'

end StringTable

end GameVm
