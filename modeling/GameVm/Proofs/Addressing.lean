import GameVm.Proofs.EntityAllocation

/-! Three ways to name a cell of an entity record: by entity and field, by the byte address of the
record, and by a pointer. -/

namespace GameVm

namespace Pointer

lemma and_three (raw : Cell) : raw &&& 3 = 0 ↔ raw.toNat % 4 = 0 := by
  rw [← UInt32.toNat_inj, UInt32.toNat_and]
  exact Iff.of_eq (congrArg (· = 0) (Nat.and_two_pow_sub_one_eq_mod raw.toNat 2))

lemma and_globalBit {raw : Cell} (h : raw.toNat < 2 ^ 31) : raw &&& globalBit = 0 := by
  rw [← UInt32.toNat_inj, UInt32.toNat_and]
  have hbit := Nat.and_two_pow raw.toNat 31
  rw [Nat.testBit_lt_two_pow h, Bool.toNat_false, Nat.zero_mul] at hbit
  exact hbit

lemma target?_of_lt {raw : Cell} (h : raw.toNat < 2 ^ 31) (ha : raw.toNat % 4 = 0) :
    target? raw = some (.entity raw) := by
  have haligned := (and_three raw).mpr ha
  rw [target?, if_neg (not_not.mpr haligned), if_neg (not_not.mpr (and_globalBit h))]

lemma toNat_global (cell : UInt16) : (global cell).toNat = 2 ^ 31 + cell.toNat * 4 := by
  have hlt : cell.toNat < 2 ^ 16 := cell.toNat_lt
  have hshift : (cell.toUInt32 <<< 2).toNat = cell.toNat * 4 := by
    rw [UInt32.toNat_shiftLeft, UInt16.toNat_toUInt32, Nat.shiftLeft_eq]
    exact Nat.mod_eq_of_lt (by change cell.toNat * 4 < 2 ^ 32; omega)
  rw [global, UInt32.toNat_or, hshift]
  exact (Nat.two_pow_add_eq_or_of_lt (i := 31) (by omega) 1).symm

lemma target?_global (cell : UInt16) : target? (global cell) = some (.global cell.toNat) := by
  have hlt : cell.toNat < 2 ^ 16 := cell.toNat_lt
  have hraw := toNat_global cell
  have haligned : global cell &&& 3 = 0 := (and_three _).mpr (by omega)
  have hmarked : global cell &&& globalBit ≠ 0 := by
    intro h
    have hbit := congrArg UInt32.toNat h
    rw [UInt32.toNat_and, hraw] at hbit
    have htop := Nat.and_two_pow (2 ^ 31 + cell.toNat * 4) 31
    rw [Nat.testBit_two_pow_add_eq, Nat.testBit_lt_two_pow (by omega)] at htop
    exact absurd (htop.symm.trans hbit) (by decide)
  have hcell : ((global cell &&& 0x7FFFFFFF) >>> 2).toNat = cell.toNat := by
    rw [UInt32.toNat_shiftRight, UInt32.toNat_and, hraw, Nat.shiftRight_eq_div_pow]
    have hmask := Nat.and_two_pow_sub_one_eq_mod (2 ^ 31 + cell.toNat * 4) 31
    rw [Nat.add_mod_left, Nat.mod_eq_of_lt (by omega)] at hmask
    exact (congrArg (· / 2 ^ 2) hmask).trans (Nat.mul_div_cancel _ (by decide))
  rw [target?, if_neg (not_not.mpr haligned), if_pos hmarked, hcell]

end Pointer

namespace Entities

variable {e : Entities} {entity field n : Nat}

def position (e : Entities) (entity field : Nat) : Nat := entity * e.recordCells + field

lemma position_lt (he : entity < e.capacity) (hf : field < e.recordCells) :
    e.position entity field < e.capacity * e.recordCells := by
  have hle : (entity + 1) * e.recordCells ≤ e.capacity * e.recordCells :=
    Nat.mul_le_mul_right _ he
  rw [Nat.add_mul, Nat.one_mul] at hle
  rw [position]
  omega

lemma position_inj {entity' field' : Nat} (hf : field < e.recordCells)
    (hf' : field' < e.recordCells) (h : e.position entity field = e.position entity' field') :
    entity = entity' ∧ field = field' := by
  have hdiv := congrArg (· / e.recordCells) h
  have hmod := congrArg (· % e.recordCells) h
  simp only [position, Nat.mul_comm _ e.recordCells, Nat.mul_add_mod, Nat.mod_eq_of_lt hf,
    Nat.mod_eq_of_lt hf'] at hmod
  have hpos : 0 < e.recordCells := Nat.zero_lt_of_lt hf
  simp only [position, Nat.mul_comm _ e.recordCells, Nat.mul_add_div hpos, Nat.div_eq_of_lt hf,
    Nat.div_eq_of_lt hf', Nat.add_zero] at hdiv
  exact ⟨hdiv, hmod⟩

section Handles

lemma handle_eq (he : entity < e.capacity) :
    e.handle entity = .ok (Int32.ofNat (entity * e.recordBytes)) := by
  rw [handle, check_natCast he]
  rfl

lemma check_eq_ok_iff {number : Int} :
    e.check number = .ok entity ↔ entity < e.capacity ∧ number = entity := by
  constructor
  · intro h
    obtain ⟨hlt, hn⟩ := check_ok h
    exact ⟨hlt, hn.symm⟩
  · rintro ⟨hlt, rfl⟩
    exact check_natCast hlt

lemma index_eq_ok_iff (hr : 0 < e.recordCells) {handle : Int32} :
    e.index handle = .ok entity ↔ entity < e.capacity ∧ handle.toInt = entity * e.recordBytes := by
  have hpos : (0 : Int) < e.recordBytes := by
    rw [recordBytes]
    omega
  rw [index]
  split_ifs with hbad
  · refine iff_of_false (by simp) ?_
    rintro ⟨-, hh⟩
    rcases hbad with hneg | hrest
    · rw [hh] at hneg
      exact absurd (Int.mul_nonneg (Int.natCast_nonneg entity) hpos.le) (Int.not_le.mpr hneg)
    · rw [hh, Int.mul_emod_left] at hrest
      exact hrest rfl
  · rw [not_or, not_not] at hbad
    rw [check_eq_ok_iff, Int.ediv_eq_iff_eq_mul_left hpos.ne' (Int.dvd_of_emod_eq_zero hbad.2)]

end Handles

section Pointers

lemma address_eq_ok_iff {pointer : Cell} : e.address entity field = .ok pointer ↔
    entity < e.capacity ∧ field < e.recordCells ∧
      pointer = UInt32.ofNat (e.position entity field * 4) := by
  constructor
  · intro h
    have hp := address_eq_ok h
    cases hs : e.span entity field 1 with
    | error err => simp [address, hs, bind, Except.bind] at h
    | ok start =>
      obtain ⟨he, hf, -⟩ := span_eq_ok hs
      exact ⟨he, hf, hp⟩
  · rintro ⟨he, hf, rfl⟩
    rw [address, span_eq he hf]
    rfl

lemma field_eq (he : entity < e.capacity) : e.field entity field n =
    if field + n ≤ e.recordCells then .ok (Cells.read e.cells (e.position entity field) n)
    else .error (.field field n e.recordCells) := by
  rw [Entities.field]
  split_ifs with hf
  · rw [span_eq he hf]
    rfl
  · simp [span, check_natCast he, bind, Except.bind, show e.recordCells < field + n by omega,
      throw, throwThe, MonadExceptOf.throw]

variable {byte : Cell} {cell : Nat}

lemma load_eq (hb : byte.toNat = cell * 4) : e.load byte n =
    if cell + n ≤ e.cells.size then .ok (Cells.read e.cells cell n)
    else .error (.pointer byte) := by
  rw [load, locate, hb, Nat.mul_div_cancel _ (by decide)]
  split_ifs with hlt hle
  · omega
  · rfl
  · rfl
  · omega

lemma store_eq (hb : byte.toNat = cell * 4) (vs : List Cell) : store byte vs e =
    if cell + vs.length ≤ e.cells.size then .ok () { e with cells := Cells.write e.cells cell vs }
    else .error (.pointer byte) e := by
  rw [store, locate, hb, Nat.mul_div_cancel _ (by decide)]
  split_ifs with hlt hle
  · omega
  · rfl
  · rfl
  · omega

lemma position_fits (hw : e.Whole) (he : entity < e.capacity) (hf : field + n ≤ e.recordCells) :
    e.position entity field + n ≤ e.cells.size := by
  have hrecord := record_fits hw he
  rw [position]
  omega

lemma load_eq_field (hw : e.Whole) (he : entity < e.capacity) (hf : field + n ≤ e.recordCells)
    (hb : byte.toNat = e.position entity field * 4) :
    ∃ vs, e.field entity field n = .ok vs ∧ e.load byte n = .ok vs := by
  refine ⟨Cells.read e.cells (e.position entity field) n, ?_, ?_⟩
  · rw [field_eq he, if_pos hf]
  · rw [load_eq hb, if_pos (position_fits hw he hf)]

lemma record_write_of_ne (hw : e.Whole) (he : entity < e.capacity) {vs : List Cell}
    (hf : field + vs.length ≤ e.recordCells) {other : Nat} (hne : other ≠ entity) :
    record { e with cells := Cells.write e.cells (e.position entity field) vs } other =
      e.record other := by
  have hin := position_fits hw he hf
  rw [record_eq, record_eq]
  dsimp only
  split_ifs
  · rcases record_apart e.recordCells hne with hle | hle
    · rw [Cells.read_write_of_le (by rw [position]; omega) hin]
    · rw [Cells.read_write_of_ge (by rw [position]; omega) hin]
  · rfl

end Pointers

/-- Pointers lead to the cells of all records as one run: access through one agrees with access by
entity and field as long as it ends inside the record, and otherwise goes on into the next records
up to the end of the last one. -/
theorem pointer_runs_on_to_last_record (capacity recordCells : Nat) (ops : List Op)
    (entity field : Nat) (pointer : Cell)
    (ha : ((fresh capacity recordCells).after ops).address entity field = .ok pointer)
    (hfit : ((fresh capacity recordCells).after ops).position entity field * 4 < 2 ^ 32)
    (n : Nat) :
    let e := (fresh capacity recordCells).after ops
    let start := e.position entity field
    (field + n ≤ e.recordCells →
      ∃ vs, e.field entity field n = .ok vs ∧ e.load pointer n = .ok vs) ∧
    (e.recordCells < field + n →
      e.field entity field n = .error (.field field n e.recordCells) ∧
      e.load pointer n =
        if start + n ≤ e.capacity * e.recordCells then .ok (Cells.read e.cells start n)
        else .error (.pointer pointer)) ∧
    ∀ vs, vs.length = n → match store pointer vs e with
      | .ok _ e' => start + n ≤ e.capacity * e.recordCells ∧ e' = { e with cells := e'.cells } ∧
        (∀ k, e'.cells[k]? =
          if start ≤ k ∧ k < start + n then vs[k - start]? else e.cells[k]?) ∧
        (field + n ≤ e.recordCells → ∀ other, other ≠ entity → e'.record other = e.record other)
      | .error err e' =>
        e.capacity * e.recordCells < start + n ∧ err = .pointer pointer ∧ e' = e := by
  intro e start
  have hw : e.Whole := ((managed_fresh capacity recordCells).after ops).whole
  have hsize : e.cells.size = e.capacity * e.recordCells := hw
  obtain ⟨he, hf, hp⟩ := (address_eq_ok_iff (e := e)).mp ha
  have hb : pointer.toNat = start * 4 := by
    rw [hp]
    exact UInt32.toNat_ofNat_of_lt hfit
  refine ⟨fun hin => load_eq_field hw he hin hb, fun hout => ⟨?_, ?_⟩, ?_⟩
  · rw [field_eq he, if_neg (by omega)]
  · rw [load_eq hb, hsize]
  · rintro vs rfl
    rw [store_eq hb]
    split_ifs with hle
    · refine ⟨hsize ▸ hle, rfl, fun k => Cells.getElem?_write _ _ _ _ hle, ?_⟩
      exact fun hin other hne => record_write_of_ne hw he hin hne
    · exact ⟨by omega, rfl, rfl⟩

/-- Three records of two cells, and the pointer to the last cell of the second one. -/
theorem pointer_runs_on_from_second_record :
    let e := (fresh 3 2).after [.alloc 0, .setField 1 0 [5, 6], .store 16 [7]]
    e.address 1 1 = .ok 12 ∧ e.position 1 1 * 4 < 2 ^ 32 ∧
    (∃ vs, e.field 1 1 1 = .ok vs ∧ e.load 12 1 = .ok vs) ∧
    e.field 1 1 3 = .error (.field 1 3 2) ∧ e.load 12 3 = .ok [6, 7, 0] ∧
    e.load 12 4 = .error (.pointer 12) := by
  intro e
  have ha : e.address 1 1 = .ok 12 := by decide +kernel
  have hfit : e.position 1 1 * 4 < 2 ^ 32 := by decide +kernel
  have hone := pointer_runs_on_to_last_record 3 2 _ 1 1 12 ha hfit 1
  have hthree := pointer_runs_on_to_last_record 3 2 _ 1 1 12 ha hfit 3
  have hfour := pointer_runs_on_to_last_record 3 2 _ 1 1 12 ha hfit 4
  obtain ⟨hfield, hload⟩ := hthree.2.1 (by decide +kernel)
  exact ⟨ha, hfit, hone.1 (by decide +kernel), hfield, hload, (hfour.2.1 (by decide +kernel)).2⟩

/-- A vector stored through the pointer to the last cell of a record. -/
theorem vector_store_overwrites_next_record :
    let e := fresh 3 2
    e.address 1 1 = .ok 12 ∧ e.field 1 1 3 = .error (.field 1 3 2) ∧
    e.load 12 3 = .ok [0, 0, 0] ∧ e.record 2 = .ok [0, 0] ∧
    ∃ e', store 12 [7, 8, 9] e = .ok () e' ∧ e'.record 2 = .ok [8, 9] :=
  ⟨rfl, rfl, rfl, rfl, _, rfl, rfl⟩

end Entities

lemma Instance.sizes_of_accepted {image : Image} {options : InstanceOptions}
    (h : optionsFlaw? image options = none) : 1 ≤ options.entityCapacity ∧
      options.entityCapacity * max (options.recordCells.getD image.parts.entityCells.toNat) 1 * 4 ≤
        2 ^ 31 := by
  rw [optionsFlaw?] at h
  split_ifs at h with hzero hneeded hbytes
  exact ⟨Nat.one_le_iff_ne_zero.mpr hzero, Nat.le_of_not_lt hbytes⟩

namespace Memory

variable {m : Memory} {pointer : Cell}

lemma load_entity (ht : Pointer.target? pointer = some (.entity pointer)) (n : Nat) :
    m.load pointer n = m.entities.load pointer n := by
  rw [load, ht]

lemma store_entity (ht : Pointer.target? pointer = some (.entity pointer)) {vs : List Cell}
    {e : Entities} (h : Entities.store pointer vs m.entities = .ok () e) :
    store pointer vs m = .ok () { m with entities := e } := by
  rw [store, ht]
  change onEntities _ m = _
  rw [onEntities, h]

lemma store_global (cell : UInt16) {vs : List Cell}
    (h : cell.toNat + vs.length ≤ m.globals.cells.size) :
    store (Pointer.global cell) vs m =
      .ok () { m with globals := ⟨Cells.write m.globals.cells cell.toNat vs⟩ } := by
  rw [store, Pointer.target?_global]
  simp [EStateM.adaptExcept, onGlobals, Globals.write, h]

end Memory

namespace Entities

/-- The records have cells, and all of them together have addresses below the mark of pointers to
globals. -/
structure Addressable (e : Entities) : Prop where
  whole : e.Whole
  record_pos : 0 < e.recordCells
  bytes : e.capacity * e.recordCells * 4 ≤ 2 ^ 31

namespace Addressable

variable {e : Entities} {entity field : Nat}

lemma handle_ok (h : e.Addressable) (he : entity < e.capacity) :
    ∃ handle, e.handle entity = .ok handle ∧ handle.toInt = entity * e.recordBytes := by
  have hlt := position_lt he h.record_pos
  have hbytes := h.bytes
  refine ⟨_, handle_eq he, ?_⟩
  rw [Int32.toInt_ofNat_of_lt, Int.natCast_mul]
  rw [recordBytes, ← Nat.mul_assoc]
  rw [position] at hlt
  omega

variable {pointer : Cell}

lemma toNat_pointer (h : e.Addressable) (ha : e.address entity field = .ok pointer) :
    pointer.toNat = e.position entity field * 4 ∧ pointer.toNat < 2 ^ 31 := by
  obtain ⟨he, hf, rfl⟩ := address_eq_ok_iff.mp ha
  have hlt := position_lt he hf
  have hbytes := h.bytes
  have hp : (UInt32.ofNat (e.position entity field * 4)).toNat = e.position entity field * 4 :=
    UInt32.toNat_ofNat_of_lt (by change e.position entity field * 4 < 2 ^ 32; omega)
  omega

lemma target?_pointer (h : e.Addressable) (ha : e.address entity field = .ok pointer) :
    Pointer.target? pointer = some (.entity pointer) := by
  obtain ⟨hp, hlt⟩ := h.toNat_pointer ha
  exact Pointer.target?_of_lt hlt (hp ▸ Nat.mul_mod_left _ 4)

lemma address_inj (h : e.Addressable) {entity' field' : Nat}
    (ha : e.address entity field = .ok pointer) (ha' : e.address entity' field' = .ok pointer) :
    entity' = entity ∧ field' = field := by
  obtain ⟨-, hf, -⟩ := address_eq_ok_iff.mp ha
  obtain ⟨-, hf', -⟩ := address_eq_ok_iff.mp ha'
  have hp := (h.toNat_pointer ha).1
  have hp' := (h.toNat_pointer ha').1
  exact position_inj hf' hf (by omega)

end Addressable

end Entities

lemma Instance.addressable_of_accepted {image : Image} {options : InstanceOptions}
    (h : optionsFlaw? image options = none) (ops : List Entities.Op) :
    let recordCells := options.recordCells.getD image.parts.entityCells.toNat
    let e := (Entities.fresh options.entityCapacity recordCells).after ops
    e.capacity = options.entityCapacity ∧ e.recordCells = max recordCells 1 ∧ e.Addressable := by
  intro recordCells e
  obtain ⟨hpos, hbytes⟩ := sizes_of_accepted h
  have hfresh := Entities.managed_fresh options.entityCapacity recordCells
  obtain ⟨hcap, hrec⟩ := Entities.capacity_after hfresh ops
  have hcap' : e.capacity = options.entityCapacity := hcap.trans (max_eq_left hpos)
  refine ⟨hcap', hrec, (hfresh.after ops).whole, ?_, ?_⟩
  · rw [hrec]
    exact le_max_right recordCells 1
  · rw [hcap', hrec]
    exact hbytes

/-- Byte addresses of records and pointers to their cells for entity memory as instances are given
it: none of them wraps around, no two are the same, and no pointer to a record is one to a global;
and what is loaded or stored through a pointer is what it was made from. -/
theorem Instance.addresses_one_to_one {image : Image} {options : InstanceOptions}
    (h : optionsFlaw? image options = none) (ops : List Entities.Op) (globals : Globals)
    (strings : StringTable) :
    let recordCells := options.recordCells.getD image.parts.entityCells.toNat
    let e := (Entities.fresh options.entityCapacity recordCells).after ops
    let m : Memory := ⟨globals, e, strings⟩
    e.capacity = options.entityCapacity ∧ e.recordCells = max recordCells 1 ∧
    (∀ entity < e.capacity, ∃ handle,
      e.handle entity = .ok handle ∧ handle.toInt = entity * e.recordBytes) ∧
    (∀ handle entity, e.index handle = .ok entity ↔
      entity < e.capacity ∧ handle.toInt = entity * e.recordBytes) ∧
    (∀ entity < e.capacity, ∀ field < e.recordCells, ∃ pointer,
      e.address entity field = .ok pointer ∧
      pointer.toNat = entity * e.recordBytes + 4 * field ∧ pointer.toNat % 4 = 0 ∧
      pointer &&& Pointer.globalBit = 0 ∧ (∀ cell, pointer ≠ Pointer.global cell) ∧
      (∀ entity' field', e.address entity' field' = .ok pointer →
        entity' = entity ∧ field' = field) ∧
      (∀ n, field + n ≤ e.recordCells →
        ∃ vs, e.field entity field n = .ok vs ∧ m.load pointer n = .ok vs) ∧
      ∀ vs, field + vs.length ≤ e.recordCells → ∃ m',
        Memory.store pointer vs m = .ok () m' ∧ m'.globals = globals ∧
        m.Overwritten (Place.run .entities (e.position entity field) vs.length) vs m') ∧
    ∀ (cell : UInt16) vs, cell.toNat + vs.length ≤ globals.size → ∃ m',
      Memory.store (Pointer.global cell) vs m = .ok () m' ∧ m'.entities = e ∧
      m.Overwritten (Place.run .globals cell.toNat vs.length) vs m' := by
  intro recordCells e m
  obtain ⟨hcap, hrec, hadr⟩ := addressable_of_accepted h ops
  refine ⟨hcap, hrec, fun entity he => hadr.handle_ok he,
    fun handle entity => Entities.index_eq_ok_iff hadr.record_pos, fun entity he field hf => ?_,
    fun cell vs hin => ?_⟩
  · have ha := Entities.address_eq_ok_iff.mpr ⟨he, hf, rfl⟩
    obtain ⟨hp, hlt⟩ := hadr.toNat_pointer ha
    have ht := hadr.target?_pointer ha
    refine ⟨_, ha, ?_, by omega, Pointer.and_globalBit hlt, fun cell hc => ?_,
      fun entity' field' ha' => hadr.address_inj ha ha', fun n hn => ?_, fun vs hn => ?_⟩
    · rw [hp, Entities.position, Entities.recordBytes, Nat.add_mul, Nat.mul_assoc, Nat.mul_comm 4]
    · rw [hc, Pointer.toNat_global] at hlt
      omega
    · rw [Memory.load_entity ht]
      exact Entities.load_eq_field hadr.whole he hn hp
    · have hs := Entities.store_eq (e := e) hp vs
      rw [if_pos (Entities.position_fits hadr.whole he hn)] at hs
      have hm := Memory.store_entity (m := m) ht hs
      have hover := Memory.overwritten_store rfl hm
      rw [Place.pointed, ht] at hover
      simp only [hp, Nat.mul_div_cancel _ (show 0 < 4 by decide)] at hover
      exact ⟨_, hm, rfl, hover⟩
  · have hm := Memory.store_global (m := m) cell hin
    have hover := Memory.overwritten_store rfl hm
    rw [Place.pointed, Pointer.target?_global] at hover
    exact ⟨_, hm, rfl, hover⟩

theorem Forger.addresses_fill_space :
    let options : InstanceOptions := { entityCapacity := 0x8000000, recordCells := some 4 }
    let e := (Entities.fresh 0x8000000 4).after []
    Instance.optionsFlaw? (Image.ofParts parts) options = none ∧
    (∃ handle, e.handle 0x7FFFFFF = .ok handle ∧ handle.toInt = 0x7FFFFFF0) ∧
    e.index 0x7FFFFFF0 = .ok 0x7FFFFFF ∧ (∀ entity, e.index 0x7FFFFFF4 ≠ .ok entity) ∧
    ∃ pointer, e.address 0x7FFFFFF 3 = .ok pointer ∧ pointer.toNat = 0x7FFFFFFC ∧
      ∀ cell, pointer ≠ Pointer.global cell := by
  intro options e
  have ho : Instance.optionsFlaw? (Image.ofParts parts) options = none := by decide +kernel
  obtain ⟨-, -, hhandle, hindex, haddress, -⟩ := Instance.addresses_one_to_one ho [] ⟨#[]⟩
    (StringTable.fresh #[] 1 1)
  obtain ⟨pointer, ha, hp, -, -, hglobal, -⟩ := haddress 0x7FFFFFF (by decide) 3 (by decide)
  refine ⟨ho, hhandle 0x7FFFFFF (by decide), ?_, fun entity hi => ?_, pointer, ha, hp, hglobal⟩
  · exact (hindex _ _).mpr ⟨by decide, by decide⟩
  · obtain ⟨-, hint⟩ := (hindex _ _).mp hi
    have hint : (0x7FFFFFF4 : Int) = entity * (16 : Nat) := hint
    omega

end GameVm
