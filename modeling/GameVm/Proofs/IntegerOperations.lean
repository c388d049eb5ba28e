import GameVm.Proofs.Overwrites

/-! Integer operations: what they make of two cells, told of the numbers that these stand for. -/

namespace GameVm

namespace Opcode

def integers : List Opcode := [.addI, .subI, .mulI, .divI, .modI, .bitAndI, .bitOrI, .bitXorI,
  .shiftLeftI, .shiftRightI, .eqI, .neI, .ltI, .leI, .gtI, .geI, .notI]

def divides : Opcode → Bool
  | .divI | .modI => true
  | _ => false

def denials : List (Opcode × Opcode) := [(.leI, .gtI), (.geI, .ltI), (.neI, .eqI)]

/-- The number `z` is the result for `x` and `y`. Quotients are cut toward zero; a remainder differs
from `x` by a multiple of `y`, is of smaller magnitude than `y` and has the sign of `x`. -/
def Computes (x y z : Int32) : Opcode → Prop
  | .addI => z.toInt ≡ x.toInt + y.toInt [ZMOD 2 ^ 32]
  | .subI => z.toInt ≡ x.toInt - y.toInt [ZMOD 2 ^ 32]
  | .mulI => z.toInt ≡ x.toInt * y.toInt [ZMOD 2 ^ 32]
  | .divI => z.toInt ≡ x.toInt.tdiv y.toInt [ZMOD 2 ^ 32]
  | .modI => y.toInt ∣ x.toInt - z.toInt ∧ |z.toInt| < |y.toInt| ∧ 0 ≤ x.toInt * z.toInt
  | .bitAndI => ∀ k, z.toBitVec.getLsbD k = (x.toBitVec.getLsbD k && y.toBitVec.getLsbD k)
  | .bitOrI => ∀ k, z.toBitVec.getLsbD k = (x.toBitVec.getLsbD k || y.toBitVec.getLsbD k)
  | .bitXorI => ∀ k, z.toBitVec.getLsbD k = (x.toBitVec.getLsbD k ^^ y.toBitVec.getLsbD k)
  | .shiftLeftI => z.toInt ≡ x.toInt * 2 ^ (y.toInt % 32).toNat [ZMOD 2 ^ 32]
  | .shiftRightI => z.toInt = x.toInt.fdiv (2 ^ (y.toInt % 32).toNat)
  | .eqI => z = if x.toInt = y.toInt then 1 else 0
  | .neI => z = if x.toInt ≠ y.toInt then 1 else 0
  | .ltI => z = if x.toInt < y.toInt then 1 else 0
  | .leI => z = if x.toInt ≤ y.toInt then 1 else 0
  | .gtI => z = if x.toInt > y.toInt then 1 else 0
  | .geI => z = if x.toInt ≥ y.toInt then 1 else 0
  | .notI => z = if x.toInt = 0 then 1 else 0
  | _ => False

end Opcode

section Words

variable {x y z w : Int32}

lemma toInt_eq_bmod (x : Int32) : x.toInt = (x.toUInt32.toNat : Int).bmod (2 ^ 32) :=
  BitVec.toInt_eq_toNat_bmod _

lemma toInt_modEq_iff {n : Int} (hw : w.toInt = n.bmod (2 ^ 32)) :
    z.toInt ≡ n [ZMOD 2 ^ 32] ↔ z = w := by
  have hn : w.toInt ≡ n [ZMOD 2 ^ 32] := by
    rw [hw]
    exact Int.bmod_emod
  constructor
  · intro hz
    have hzw : z.toInt ≡ w.toInt [ZMOD 2 ^ 32] := hz.trans hn.symm
    have := z.toInt_lt
    have := z.le_toInt
    have := w.toInt_lt
    have := w.le_toInt
    rw [Int.ModEq] at hzw
    exact Int32.toInt_inj.mp (by omega)
  · rintro rfl
    exact hn

lemma eq_tmod_iff {x y z : Int} (hy : y ≠ 0) :
    y ∣ x - z ∧ |z| < |y| ∧ 0 ≤ x * z ↔ z = x.tmod y := by
  have hlt : |x.tmod y| < |y| := by
    rw [Int.abs_eq_natAbs, Int.abs_eq_natAbs, Int.natAbs_tmod]
    exact_mod_cast Nat.mod_lt _ (Int.natAbs_pos.mpr hy)
  have hnonneg : 0 ≤ x → 0 ≤ x.tmod y := Int.tmod_nonneg y
  have hnonpos (hx : x ≤ 0) : x.tmod y ≤ 0 := by
    have := Int.tmod_nonneg (a := -x) y (by omega)
    rw [Int.neg_tmod] at this
    omega
  constructor
  · rintro ⟨hdvd, hz, hxz⟩
    have hdiff : y ∣ z - x.tmod y := by
      have := Int.dvd_sub (Int.dvd_self_sub_tmod (x := x) (m := y)) hdvd
      rwa [show x - x.tmod y - (x - z) = z - x.tmod y by ring] at this
    -- Both remainders lie on the same side of zero, so they are less than `y` apart.
    have hclose : |z - x.tmod y| < |y| := by
      rcases lt_trichotomy x 0 with hx | rfl | hx
      · have := nonpos_of_mul_nonneg_right hxz hx
        have := hnonpos hx.le
        rw [abs_lt] at *
        omega
      · simpa using hz
      · have := nonneg_of_mul_nonneg_right hxz hx
        have := hnonneg hx.le
        rw [abs_lt] at *
        omega
    have := Int.eq_zero_of_abs_lt_dvd ((abs_dvd y _).mpr hdiff) hclose
    omega
  · rintro rfl
    refine ⟨Int.dvd_self_sub_tmod, hlt, ?_⟩
    rcases le_total 0 x with hx | hx
    · exact mul_nonneg hx (hnonneg hx)
    · exact mul_nonneg_of_nonpos_of_nonpos hx (hnonpos hx)

lemma bits_iff {f : Bool → Bool → Bool}
    (hw : ∀ k, w.toBitVec.getLsbD k = f (x.toBitVec.getLsbD k) (y.toBitVec.getLsbD k)) :
    (∀ k, z.toBitVec.getLsbD k = f (x.toBitVec.getLsbD k) (y.toBitVec.getLsbD k)) ↔ z = w := by
  constructor
  · intro hz
    refine Int32.toBitVec_inj.mp (BitVec.eq_of_getLsbD_eq fun k _ => ?_)
    rw [hz, hw]
  · rintro rfl
    exact hw

end Words

namespace Action

lemma toNat_places (y : Int32) : (y.toUInt32 &&& 31).toNat = (y.toInt % 32).toNat := by
  have hy := @Int.bmod_emod (y.toUInt32.toNat : Int) (2 ^ 32)
  rw [← toInt_eq_bmod] at hy
  have hand : (y.toUInt32 &&& 31).toNat = y.toUInt32.toNat % 32 :=
    (UInt32.toNat_and ..).trans (Nat.and_two_pow_sub_one_eq_mod _ 5)
  omega

lemma toInt_shiftLeft (x y : Int32) :
    (shiftLeft x y).toInt = (x.toInt * 2 ^ (y.toInt % 32).toNat).bmod (2 ^ 32) := by
  have hplaces : (y.toInt % 32).toNat < 32 := by omega
  have hnat : (x.toUInt32 <<< (y.toUInt32 &&& 31)).toNat =
      x.toUInt32.toNat * 2 ^ (y.toInt % 32).toNat % 2 ^ 32 := by
    rw [UInt32.toNat_shiftLeft, toNat_places, Nat.mod_eq_of_lt hplaces, Nat.shiftLeft_eq]
  calc
    (shiftLeft x y).toInt = ((x.toUInt32 <<< (y.toUInt32 &&& 31)).toNat : Int).bmod (2 ^ 32) :=
      toInt_eq_bmod _
    _ = ((x.toUInt32.toNat : Int) * 2 ^ (y.toInt % 32).toNat).bmod (2 ^ 32) := by
      rw [hnat]
      push_cast
      exact Int.emod_bmod ..
    _ = _ := by rw [← Int.bmod_mul_bmod, ← toInt_eq_bmod]

lemma toInt_shiftRight (x y : Int32) :
    (shiftRight x y).toInt = x.toInt.fdiv (2 ^ (y.toInt % 32).toNat) := by
  have hlt : (y.toUInt32 &&& 31).toBitVec.toNat < 32 := by
    rw [UInt32.toNat_toBitVec, toNat_places]
    omega
  have hmsb : (y.toUInt32 &&& 31).toBitVec.msb = false := by
    rw [BitVec.msb_eq_decide, decide_eq_false_iff_not]
    omega
  -- The distance is below 32 already, so reducing it once more changes nothing.
  have hplaces : ((y.toUInt32 &&& 31).toBitVec.smod 32).toNat = (y.toInt % 32).toNat := by
    rw [BitVec.toNat_smod, hmsb]
    change ((y.toUInt32 &&& 31).toBitVec.umod 32).toNat = _
    rw [BitVec.umod_eq, BitVec.toNat_umod, ← toNat_places]
    exact Nat.mod_eq_of_lt hlt
  have hbits : (shiftRight x y).toBitVec = x.toBitVec.sshiftRight (y.toInt % 32).toNat := by
    rw [shiftRight, Int32.toBitVec_shiftRight, BitVec.sshiftRight_eq', ← hplaces]
    rfl
  calc
    (shiftRight x y).toInt = (x.toBitVec.sshiftRight (y.toInt % 32).toNat).toInt :=
      congrArg BitVec.toInt hbits
    _ = x.toInt.fdiv (2 ^ (y.toInt % 32).toNat) := by
      rw [BitVec.toInt_sshiftRight, Int.shiftRight_eq_div_pow,
        Int.fdiv_eq_ediv_of_nonneg _ (by positivity)]
      norm_cast

def onCells (u v : Cell) : Action → Cell
  | .cell1 f => f u
  | .cell2 f => f u v
  | .divide f => (f u.toInt32 v.toInt32).toUInt32
  | _ => 0

lemma toInt32_intTest (p : Int32 → Int32 → Bool) (u v : Cell) :
    (intTest p u v).toInt32 = if p u.toInt32 v.toInt32 then 1 else 0 := by
  rw [intTest]
  split <;> rfl

end Action

lemma Action.ofOpcode_integer {op : Opcode} (hop : op ∈ Opcode.integers) :
    (op.divides = false ∧ ∃ f, ofOpcode op = .cell1 f) ∨
      (op.divides = false ∧ ∃ f, ofOpcode op = .cell2 f) ∨
      (op.divides = true ∧ ∃ f, ofOpcode op = .divide f) := by
  cases op with
  | notI => exact .inl ⟨rfl, _, rfl⟩
  | divI | modI => exact .inr (.inr ⟨rfl, _, rfl⟩)
  | addI | subI | mulI | bitAndI | bitOrI | bitXorI | shiftLeftI | shiftRightI | eqI | neI | ltI
  | leI | gtI | geI => exact .inr (.inl ⟨rfl, _, rfl⟩)
  | _ => exact absurd hop (by decide)

open GameVm.Action in
lemma Opcode.computes_iff {op : Opcode} (hop : op ∈ integers) {u v : Cell} {z : Int32}
    (hv : op.divides → v.toInt32 ≠ 0) :
    op.Computes u.toInt32 v.toInt32 z ↔ z = ((ofOpcode op).onCells u v).toInt32 := by
  cases op with
  | addI => exact toInt_modEq_iff (Int32.toInt_add ..)
  | subI => exact toInt_modEq_iff (Int32.toInt_sub ..)
  | mulI => exact toInt_modEq_iff (Int32.toInt_mul ..)
  | divI => exact toInt_modEq_iff (Int32.toInt_div ..)
  | modI =>
    have hy : v.toInt32.toInt ≠ 0 := fun h => hv rfl (Int32.toInt_inj.mp h)
    refine (eq_tmod_iff hy).trans ?_
    rw [← Int32.toInt_mod]
    exact Int32.toInt_inj
  | bitAndI => exact bits_iff fun k => BitVec.getLsbD_and ..
  | bitOrI => exact bits_iff fun k => BitVec.getLsbD_or ..
  | bitXorI => exact bits_iff fun k => BitVec.getLsbD_xor ..
  | shiftLeftI => exact toInt_modEq_iff (toInt_shiftLeft ..)
  | shiftRightI =>
    rw [Computes, ← toInt_shiftRight]
    exact Int32.toInt_inj
  | eqI | neI => simp [Computes, ofOpcode, onCells, toInt32_intTest, Int32.toInt_inj]
  | ltI | gtI => simp [Computes, ofOpcode, onCells, toInt32_intTest, Int32.lt_iff_toInt_lt]
  | leI | geI => simp [Computes, ofOpcode, onCells, toInt32_intTest, Int32.le_iff_toInt_le]
  | notI =>
    have hu : u.toInt32.toInt = 0 ↔ u = 0 :=
      ⟨fun h => congrArg Int32.toUInt32 (Int32.toInt_inj.mp h : u.toInt32 = 0), fun h => h ▸ rfl⟩
    by_cases hzero : u = 0
    · simp [Computes, ofOpcode, onCells, hzero]
    · simp [Computes, ofOpcode, onCells, hu, hzero]
  | _ => exact absurd hop (by decide)

lemma exists_test (p : Prop) [Decidable p] :
    ∃ z ∈ [(0 : Int32), 1], (z = if p then 1 else 0) ∧ 1 - z = if ¬ p then 1 else 0 := by
  by_cases hp : p
  · exact ⟨1, by simp, by simp [hp], by simp [hp]⟩
  · exact ⟨0, by simp, by simp [hp], by simp [hp]⟩

lemma Opcode.computes_denial {ops : Opcode × Opcode} (h : ops ∈ denials) (x y : Int32) :
    ops.1 ∈ integers ∧ ops.2 ∈ integers ∧ ops.1.divides = false ∧ ops.2.divides = false ∧
      ∃ z ∈ [(0 : Int32), 1], ops.1.Computes x y z ∧ ops.2.Computes x y (1 - z) := by
  simp only [denials, List.mem_cons, List.not_mem_nil, or_false] at h
  rcases h with rfl | rfl | rfl
  · refine ⟨by decide, by decide, rfl, rfl, ?_⟩
    simpa only [Computes, not_le] using exists_test (x.toInt ≤ y.toInt)
  · refine ⟨by decide, by decide, rfl, rfl, ?_⟩
    simpa only [Computes, ge_iff_le, not_le] using exists_test (y.toInt ≤ x.toInt)
  · refine ⟨by decide, by decide, rfl, rfl, ?_⟩
    simpa only [Computes, ne_eq, not_not] using exists_test (x.toInt ≠ y.toInt)

def Machine.stored (m : Machine) (i : Nat) (v : Cell) : Machine where
  memory := { m.memory with globals := ⟨m.memory.globals.cells.setIfInBounds i v⟩ }
  context := m.context.setStatement (m.context.statement + 1)
  profile := m.profile

namespace Exec

section Cells

variable {m : Machine} {i : Nat} (h : i < m.memory.globals.cells.size)
include h

lemma cell_eq : cell i m = .ok (m.memory.cellAt i) m := by
  simp [cell, look, Globals.cell, Memory.cellAt, h]

lemma setCell_next_eq (v : Cell) :
    (do setCell i v; next : Exec Flow) m = .ok .running (m.stored i v) := by
  have hset : setCell i v m = .ok () { m with memory := { m.memory with
      globals := ⟨m.memory.globals.cells.setIfInBounds i v⟩ } } := by
    simp [setCell, onMemory, Memory.onGlobals, Globals.setCell, h]
  simp only [bind, EStateM.bind, hset]
  rfl

end Cells

section Operations

variable {setup : Setup} {m : Machine} {st : Statement}
  (ha : st.a.toNat < m.memory.globals.cells.size)
  (hb : st.b.toNat < m.memory.globals.cells.size)
  (hc : st.c.toNat < m.memory.globals.cells.size)
include ha hb hc

lemma dispatch_integer (hop : st.op ∈ Opcode.integers) :
    dispatch setup st m =
      if st.op.divides ∧ m.memory.cellAt st.b.toNat = 0 then .error .divisionByZero m
      else .ok .running (m.stored st.c.toNat ((Action.ofOpcode st.op).onCells
        (m.memory.cellAt st.a.toNat) (m.memory.cellAt st.b.toNat))) := by
  rw [dispatch]
  rcases Action.ofOpcode_integer hop with ⟨hd, f, hf⟩ | ⟨hd, f, hf⟩ | ⟨hd, f, hf⟩
  · rw [hf, if_neg (by simp [hd])]
    simp only [perform, bind, EStateM.bind, cell_eq ha]
    exact setCell_next_eq hc _
  · rw [hf, if_neg (by simp [hd])]
    simp only [perform, bind, EStateM.bind, cell_eq ha, cell_eq hb]
    exact setCell_next_eq hc _
  · simp only [hf, hd, true_and, perform, bind, EStateM.bind, cell_eq ha, cell_eq hb]
    split
    · rfl
    · exact setCell_next_eq hc _

end Operations

variable {m : Machine} {a b c : UInt16}

/-- Whatever the operands `x` and `y` are, an integer operation has one result, and that is what it
writes; only a zero divisor makes it fail, and then nothing has changed. -/
theorem integer_operations_exact (setup : Setup) (ha : a.toNat < m.memory.globals.cells.size)
    (hb : b.toNat < m.memory.globals.cells.size) (hc : c.toNat < m.memory.globals.cells.size) :
    let x := (m.memory.cellAt a.toNat).toInt32
    let y := (m.memory.cellAt b.toNat).toInt32
    (∀ op ∈ Opcode.integers, (op.divides → y ≠ 0) → ∃ z, (∀ z', op.Computes x y z' ↔ z' = z) ∧
      dispatch setup ⟨op, a, b, c⟩ m = .ok .running (m.stored c.toNat z.toUInt32)) ∧
    (∀ op ∈ Opcode.integers, op.divides → y = 0 →
      dispatch setup ⟨op, a, b, c⟩ m = .error .divisionByZero m) ∧
    -- Quotient and remainder belong together.
    (y ≠ 0 → ∃ q r : Int32, q.toInt * y.toInt + r.toInt ≡ x.toInt [ZMOD 2 ^ 32] ∧
      dispatch setup ⟨.divI, a, b, c⟩ m = .ok .running (m.stored c.toNat q.toUInt32) ∧
      dispatch setup ⟨.modI, a, b, c⟩ m = .ok .running (m.stored c.toNat r.toUInt32)) ∧
    -- Of a comparison and the one that denies it, one holds.
    ∀ ops ∈ Opcode.denials, ∃ z ∈ [(0 : Int32), 1],
      dispatch setup ⟨ops.1, a, b, c⟩ m = .ok .running (m.stored c.toNat z.toUInt32) ∧
      dispatch setup ⟨ops.2, a, b, c⟩ m = .ok .running (m.stored c.toNat (1 - z).toUInt32) := by
  intro x y
  have hresult (op : Opcode) (hop : op ∈ Opcode.integers) (hy : op.divides → y ≠ 0) :
      ∃ z, (∀ z', op.Computes x y z' ↔ z' = z) ∧
        dispatch setup ⟨op, a, b, c⟩ m = .ok .running (m.stored c.toNat z.toUInt32) := by
    have hrun : dispatch setup ⟨op, a, b, c⟩ m = _ := dispatch_integer ha hb hc hop
    refine ⟨_, fun z' => Opcode.computes_iff hop hy, hrun.trans (if_neg ?_)⟩
    rintro ⟨hd, hzero⟩
    exact hy hd (congrArg UInt32.toInt32 hzero)
  refine ⟨hresult, fun op hop hd hy => ?_, fun hy => ?_, fun ops hops => ?_⟩
  · have hrun : dispatch setup ⟨op, a, b, c⟩ m = _ := dispatch_integer ha hb hc hop
    exact hrun.trans (if_pos ⟨hd, congrArg Int32.toUInt32 hy⟩)
  · obtain ⟨q, hq, hdiv⟩ := hresult .divI (by decide) fun _ => hy
    obtain ⟨r, hr, hmod⟩ := hresult .modI (by decide) fun _ => hy
    refine ⟨q, r, ?_, hdiv, hmod⟩
    have hquot : q.toInt ≡ x.toInt.tdiv y.toInt [ZMOD 2 ^ 32] := (hq q).mpr rfl
    have hrem : r.toInt = x.toInt.tmod y.toInt :=
      (eq_tmod_iff fun h => hy (Int32.toInt_inj.mp h)).mp ((hr r).mpr rfl)
    calc
      q.toInt * y.toInt + r.toInt ≡ x.toInt.tdiv y.toInt * y.toInt + r.toInt [ZMOD 2 ^ 32] :=
        (hquot.mul_right _).add_right _
      _ = x.toInt := by rw [hrem, Int.tdiv_mul_add_tmod]
  · obtain ⟨hop, hop', hd, hd', z, hz, hlaw, hlaw'⟩ := Opcode.computes_denial hops x y
    obtain ⟨w, hw, hrun⟩ := hresult ops.1 hop (by simp [hd])
    obtain ⟨w', hw', hrun'⟩ := hresult ops.2 hop' (by simp [hd'])
    obtain rfl := (hw z).mp hlaw
    obtain rfl := (hw' (1 - z)).mp hlaw'
    exact ⟨z, hz, hrun, hrun'⟩

def brink : Machine :=
  let m := Forger.forger.machine
  { m with memory := { m.memory with globals := ⟨#[0x80000000, 0xFFFFFFFF, 0]⟩ } }

/-- The least number has no counterpart above zero, so dividing it by minus one gives it back. -/
theorem least_divided_by_minus_one :
    dispatch Forger.setup ⟨.divI, 0, 1, 2⟩ brink = .ok .running (brink.stored 2 0x80000000) ∧
    dispatch Forger.setup ⟨.modI, 0, 1, 2⟩ brink = .ok .running (brink.stored 2 0) ∧
    dispatch Forger.setup ⟨.shiftRightI, 0, 1, 2⟩ brink =
      .ok .running (brink.stored 2 0xFFFFFFFF) ∧
    dispatch Forger.setup ⟨.divI, 0, 2, 2⟩ brink = .error .divisionByZero brink := by
  obtain ⟨hresult, -⟩ := integer_operations_exact (m := brink) (a := 0) (b := 1) (c := 2)
    Forger.setup (by decide) (by decide) (by decide)
  obtain ⟨-, hzero, -⟩ := integer_operations_exact (m := brink) (a := 0) (b := 2) (c := 2)
    Forger.setup (by decide) (by decide) (by decide)
  obtain ⟨q, hq, hdiv⟩ := hresult .divI (by decide) fun _ => by decide
  obtain ⟨r, hr, hmod⟩ := hresult .modI (by decide) fun _ => by decide
  obtain ⟨s, hs, hshift⟩ := hresult .shiftRightI (by decide) fun h => by cases h
  obtain rfl : Int32.minValue = q := (hq _).mp (by rw [Opcode.Computes]; decide)
  obtain rfl : 0 = r := (hr _).mp (by rw [Opcode.Computes]; decide)
  obtain rfl : -1 = s := (hs _).mp (by rw [Opcode.Computes]; decide)
  exact ⟨hdiv, hmod, hshift, hzero .divI (by decide) rfl rfl⟩

end Exec

end GameVm
