import GameVm.Float.Binary32
import Mathlib

/-! Comparing two finite floats is comparing the numbers they stand for. -/

namespace GameVm.Binary32

open Float.Model Float.Model.UnpackedFloat

def IsFinite (x : Cell) : Prop := exponent x ≠ 255

instance (x : Cell) : Decidable (IsFinite x) := inferInstanceAs (Decidable (_ ≠ _))

/-- The number that a finite cell stands for. -/
def value (x : Cell) : ℚ := (if isNegative x then -1 else 1) * significand x * 2 ^ scale x

section Fields

lemma fraction_eq (x : Cell) : fraction x = x.toNat % 2 ^ 23 := by
  rw [fraction, UInt32.toNat_and]
  exact Nat.and_two_pow_sub_one_eq_mod x.toNat 23

lemma exponent_eq (x : Cell) : exponent x = x.toNat / 2 ^ 23 % 2 ^ 8 := by
  rw [exponent, UInt32.toNat_and, UInt32.toNat_shiftRight, Nat.shiftRight_eq_div_pow]
  exact Nat.and_two_pow_sub_one_eq_mod (x.toNat / 2 ^ 23) 8

lemma toNat_unpackMantissa (x : Cell) :
    (@unpackMantissa .binary32 x.toBitVec).toNat = fraction x := by
  rw [unpackMantissa_def, BitVec.extractLsb'_toNat, fraction_eq]
  rfl

lemma toNat_unpackExponent (x : Cell) :
    (@unpackExponent .binary32 x.toBitVec).toNat = exponent x := by
  rw [unpackExponent_def, BitVec.extractLsb'_toNat, exponent_eq, Nat.shiftRight_eq_div_pow]
  rfl

lemma unpackExponent_eq_neg_one_iff (x : Cell) :
    @unpackExponent .binary32 x.toBitVec = -1#8 ↔ exponent x = 255 := by
  rw [← BitVec.toNat_inj, toNat_unpackExponent]
  rfl

lemma unpackExponent_eq_zero_iff (x : Cell) :
    @unpackExponent .binary32 x.toBitVec = 0#8 ↔ exponent x = 0 := by
  rw [← BitVec.toNat_inj, toNat_unpackExponent]
  rfl

lemma unpackMantissa_eq_zero_iff (x : Cell) :
    @unpackMantissa .binary32 x.toBitVec = 0#23 ↔ fraction x = 0 := by
  rw [← BitVec.toNat_inj, toNat_unpackMantissa]
  rfl

lemma sign_unpackSign (x : Cell) : Sign.ofBitVec (@unpackSign .binary32 x.toBitVec) =
    if isNegative x then .negative else .positive := by
  have hlt : x.toNat < 2 ^ 32 := x.toNat_lt
  have hbit : (@unpackSign .binary32 x.toBitVec).toNat = x.toNat / 2 ^ 31 % 2 ^ 1 := by
    rw [unpackSign_def, BitVec.extractLsb'_toNat, Nat.shiftRight_eq_div_pow]
    rfl
  have hneg : isNegative x = true ↔ 2 ^ 31 ≤ x.toNat := by
    rw [isNegative, decide_eq_true_iff, UInt32.le_iff_toNat_le]
    rfl
  have hzero : @unpackSign .binary32 x.toBitVec = 0#1 ↔ ¬ isNegative x = true := by
    rw [← BitVec.toNat_inj, hbit, hneg]
    change _ = 0 ↔ _
    omega
  rw [Sign.ofBitVec]
  by_cases hn : isNegative x = true
  · rw [if_pos hn, if_neg (mt hzero.mp (not_not.mpr hn))]
  · rw [if_neg hn, if_pos (hzero.mpr hn)]

end Fields

def number : UnpackedFloat → ℚ
  | .finite s m e _ => (s.apply m : ℤ) * 2 ^ e
  | _ => 0

/-- The form in which finite cells are unpacked: the significand has 24 bits unless the exponent is
the least one. -/
inductive Canonical : UnpackedFloat → Prop
  | zero (s : Sign) : Canonical (.zero s)
  | finite (s : Sign) (m : Nat) (e : Int) (hpos : 0 < m) (hm : m < 2 ^ 24) (he : -149 ≤ e)
      (hnormal : e = -149 ∨ 2 ^ 23 ≤ m) : Canonical (.finite s m e hpos)

lemma toNat_one_append (b : BitVec 23) : (1#1 ++ b).toNat = 2 ^ 23 + b.toNat := by
  rw [BitVec.toNat_append, ← Nat.shiftLeft_add_eq_or_of_lt b.isLt]
  rfl

lemma unpack_cases {x : Cell} (h : IsFinite x) :
    (significand x = 0 ∧ ∃ s, unpack .binary32 x.toBitVec = .zero s) ∨
    ∃ hpos, unpack .binary32 x.toBitVec =
      .finite (if isNegative x then .negative else .positive) (significand x) (scale x) hpos := by
  have hexp := toNat_unpackExponent x
  have hman := toNat_unpackMantissa x
  have hsign := sign_unpackSign x
  have hinf := mt (unpackExponent_eq_neg_one_iff x).mp h
  fun_cases unpack .binary32 x.toBitVec with
  | case1 _ _ _ _ he => exact absurd he hinf
  | case2 _ _ he => exact absurd he hinf
  | case3 _ _ _ s _ he hm =>
    have he := (unpackExponent_eq_zero_iff x).mp he
    have hm := (unpackMantissa_eq_zero_iff x).mp hm
    exact .inl ⟨by rw [significand, if_pos he, hm], s, rfl⟩
  | case4 _ _ _ _ _ _ he hm =>
    have he := (unpackExponent_eq_zero_iff x).mp he
    have hm := mt (unpackMantissa_eq_zero_iff x).mpr hm
    have hsig : significand x = fraction x := by rw [significand, if_pos he]
    refine .inr ⟨by omega, ?_⟩
    rw [UnpackedFloat.finite.injEq]
    refine ⟨hsign, hman.trans hsig.symm, ?_⟩
    change ((@unpackExponent .binary32 x.toBitVec).toNat : Int) - 150 + 1 = _
    rw [hexp, scale, he]
    rfl
  | case5 _ _ _ _ _ _ he =>
    have he := mt (unpackExponent_eq_zero_iff x).mpr he
    have hsig : significand x = 2 ^ 23 + fraction x := by rw [significand, if_neg he]; rfl
    refine .inr ⟨by omega, ?_⟩
    rw [UnpackedFloat.finite.injEq]
    refine ⟨hsign, ?_, ?_⟩
    · exact (toNat_one_append _).trans ((congrArg (2 ^ 23 + ·) hman).trans hsig.symm)
    · change ((@unpackExponent .binary32 x.toBitVec).toNat : Int) - 150 = _
      rw [hexp, scale, max_eq_left (Nat.one_le_iff_ne_zero.mpr he)]

lemma canonical_unpack {x : Cell} (h : IsFinite x) :
    Canonical (unpack .binary32 x.toBitVec) ∧ number (unpack .binary32 x.toBitVec) = value x := by
  have hfrac : fraction x < 2 ^ 23 := by
    rw [fraction_eq]
    exact Nat.mod_lt _ (by decide)
  rcases unpack_cases h with ⟨hz, s, hu⟩ | ⟨hpos, hu⟩
  · rw [hu]
    exact ⟨.zero s, by simp [number, value, hz]⟩
  · rw [hu]
    refine ⟨.finite _ _ _ hpos ?_ ?_ ?_, ?_⟩
    · rw [significand]
      split_ifs <;> omega
    · rw [scale]
      omega
    · rw [significand, scale]
      split_ifs with he
      · exact .inl (by rw [he]; rfl)
      · exact .inr (Nat.le_add_right _ _)
    · rw [number, value]
      by_cases hn : isNegative x = true
      · simp [hn, Sign.apply]
      · simp [hn, Sign.apply]

section Order

variable {m₁ m₂ : Nat} {e₁ e₂ : Int}

lemma magnitude_lt_of_lt (hm : m₁ < 2 ^ 24) (he : -149 ≤ e₁) (hn : e₂ = -149 ∨ 2 ^ 23 ≤ m₂)
    (h : e₁ < e₂) : (m₁ : ℚ) * 2 ^ e₁ < m₂ * 2 ^ e₂ := by
  have hm₂ : 2 ^ 23 ≤ m₂ := hn.resolve_left (by omega)
  calc (m₁ : ℚ) * 2 ^ e₁ < 2 ^ 24 * 2 ^ e₁ := by
        gcongr
        exact_mod_cast hm
    _ = 2 ^ 23 * 2 ^ (e₁ + 1) := by
        rw [zpow_add_one₀ two_ne_zero]
        ring
    _ ≤ m₂ * 2 ^ e₂ := by
        gcongr
        · exact_mod_cast hm₂
        · exact one_le_two
        · exact h

lemma compare_then_eq_lt_iff (hm₁ : m₁ < 2 ^ 24) (he₁ : -149 ≤ e₁)
    (hn₁ : e₁ = -149 ∨ 2 ^ 23 ≤ m₁) (hm₂ : m₂ < 2 ^ 24) (he₂ : -149 ≤ e₂)
    (hn₂ : e₂ = -149 ∨ 2 ^ 23 ≤ m₂) :
    (compare e₁ e₂).then (compare m₁ m₂) = .lt ↔ (m₁ : ℚ) * 2 ^ e₁ < m₂ * 2 ^ e₂ := by
  rcases lt_trichotomy e₁ e₂ with h | rfl | h
  · rw [compare_lt_iff_lt.mpr h]
    exact iff_of_true rfl (magnitude_lt_of_lt hm₁ he₁ hn₂ h)
  · have hpow : (0 : ℚ) < 2 ^ e₁ := zpow_pos two_pos e₁
    rw [compare_eq_iff_eq.mpr rfl, Ordering.eq_then, compare_lt_iff_lt,
      mul_lt_mul_iff_left₀ hpow, Nat.cast_lt]
  · rw [compare_gt_iff_gt.mpr h]
    exact iff_of_false (by simp) (magnitude_lt_of_lt hm₂ he₂ hn₁ h).not_gt

@[simp] lemma number_zero (s : Sign) : number (.zero s) = 0 := rfl

@[simp] lemma number_positive (m : Nat) (e : Int) (h : 0 < m) :
    number (.finite .positive m e h) = m * 2 ^ e := by
  simp [number, Sign.apply]

@[simp] lemma number_negative (m : Nat) (e : Int) (h : 0 < m) :
    number (.finite .negative m e h) = -(m * 2 ^ e) := by
  simp [number, Sign.apply]

lemma unpacked_lt_iff {u v : UnpackedFloat} (hu : Canonical u) (hv : Canonical v) :
    u.lt v = true ↔ number u < number v := by
  have hpos (m : Nat) (e : Int) (hm : 0 < m) : (0 : ℚ) < m * 2 ^ e := by positivity
  rw [UnpackedFloat.lt, beq_iff_eq]
  cases hu with
  | zero s =>
    cases hv with
    | zero s' => simp [UnpackedFloat.compare]
    | finite s' m e hm =>
      have hpos := hpos m e hm
      cases s' with
      | positive => simp [UnpackedFloat.compare, hpos]
      | negative => simp [UnpackedFloat.compare, hpos.le]
  | finite s m e hm hlt he hn =>
    have hpos₁ := hpos m e hm
    cases hv with
    | zero s' =>
      cases s with
      | positive => simp [UnpackedFloat.compare, hpos₁.le]
      | negative => simp [UnpackedFloat.compare, hpos₁]
    | finite s' m' e' hm' hlt' he' hn' =>
      have hpos₂ := hpos m' e' hm'
      cases s with
      | positive =>
        rw [number_positive]
        cases s' with
        | positive =>
          rw [number_positive, UnpackedFloat.compare, Option.some_inj]
          exact compare_then_eq_lt_iff hlt he hn hlt' he' hn'
        | negative =>
          rw [number_negative]
          exact iff_of_false (by simp [UnpackedFloat.compare]) (by linarith)
      | negative =>
        rw [number_negative]
        cases s' with
        | positive =>
          rw [number_positive]
          exact iff_of_true (by simp [UnpackedFloat.compare]) (by linarith)
        | negative =>
          -- the order of the magnitudes is turned around
          rw [number_negative, neg_lt_neg_iff, UnpackedFloat.compare, Option.some_inj,
            Ordering.swap_then, ← Std.OrientedOrd.eq_swap, ← Std.OrientedOrd.eq_swap]
          exact compare_then_eq_lt_iff hlt' he' hn' hlt he hn

end Order

lemma unpack_ofBits {x : Cell} (h : IsFinite x) :
    (Float32.ofBits x).toModel.unpack = unpack .binary32 x.toBitVec := by
  have hn : @isNaNBits .binary32 x.toBitVec = false := by
    rw [isNaNBits, decide_eq_false_iff_not]
    exact fun hnan => h ((unpackExponent_eq_neg_one_iff x).mp hnan.1)
  have hp := @pack_unpack .binary32 x.toBitVec
  rw [hn] at hp
  exact congrArg (unpack .binary32) hp

lemma lt_iff_value_lt {x y : Cell} (hx : IsFinite x) (hy : IsFinite y) :
    lt x y = true ↔ value x < value y := by
  obtain ⟨hcx, hvx⟩ := canonical_unpack hx
  obtain ⟨hcy, hvy⟩ := canonical_unpack hy
  rw [← hvx, ← hvy, ← unpacked_lt_iff hcx hcy, ← unpack_ofBits hx, ← unpack_ofBits hy, lt,
    decide_eq_true_iff]
  exact decide_eq_true_iff

end GameVm.Binary32
