import Adjudicator.Proofs.Number.Rounding

/-!
# Order and bits of doubles

Doubles that have all the digits a double can have are compared by their exponents and then by
their mantissas. Main statement: this is the order of the numbers that they stand for, and a double
comes back from its bits unless it is too large for any double.
-/

namespace Adjudicator.Number

open Float.Model Float.Model.UnpackedFloat

variable {f g : UnpackedFloat} {v w : ℚ} {m m' : ℕ} {e e' : ℤ}

/-! ## Order -/

/-- With all its digits a double is larger than one with a smaller exponent. -/
theorem mul_two_zpow_lt (hlt : m < 2 ^ 53) (hfull : 2 ^ 52 ≤ m') (h : e < e') :
    (m : ℚ) * 2 ^ e < m' * 2 ^ e' := by
  calc
    (m : ℚ) * 2 ^ e < 2 ^ 53 * 2 ^ e :=
      mul_lt_mul_of_pos_right (by exact_mod_cast hlt) (two_zpow_pos e)
    _ = 2 ^ 52 * 2 ^ (e + 1) := by
      rw [zpow_add_one₀ two_ne_zero]
      ring
    _ ≤ 2 ^ 52 * 2 ^ e' :=
      mul_le_mul_of_nonneg_left (zpow_le_zpow_right₀ (by norm_num) h) (by positivity)
    _ ≤ m' * 2 ^ e' :=
      mul_le_mul_of_nonneg_right (by exact_mod_cast hfull) (two_zpow_pos e').le

private theorem value_lt_of_exponent_lt (hm : 0 < m) (hm' : 0 < m')
    (he : e = Format.binary64.targetExponent (totalExponent m e))
    (he' : e' = Format.binary64.targetExponent (totalExponent m' e')) (h : e < e') :
    (m : ℚ) * 2 ^ e < m' * 2 ^ e' := by
  obtain ⟨hlt, hmin, _⟩ := canonical_bounds hm he
  obtain ⟨_, _, hfull⟩ := canonical_bounds hm' he'
  exact mul_two_zpow_lt hlt (hfull (hmin.trans_lt h)) h

/-- Doubles are compared as the numbers that they stand for. -/
theorem compare_of_denotes (hf : Denotes f v) (hg : Denotes g w) :
    f.compare g = some (compare v w) := by
  cases hf with
  | zero =>
    cases hg with
    | zero => rw [compare_eq_iff_eq.mpr rfl, UnpackedFloat.compare]
    | @finite m' e' hm' he' =>
      have hpos : (0 : ℚ) < m' * 2 ^ e' := mul_pos (by exact_mod_cast hm') (two_zpow_pos e')
      rw [compare_lt_iff_lt.mpr hpos, UnpackedFloat.compare]
  | @finite m e hm he =>
    cases hg with
    | zero =>
      have hpos : (0 : ℚ) < m * 2 ^ e := mul_pos (by exact_mod_cast hm) (two_zpow_pos e)
      rw [compare_gt_iff_gt.mpr hpos, UnpackedFloat.compare]
    | @finite m' e' hm' he' =>
      rw [UnpackedFloat.compare]
      rcases lt_trichotomy e e' with hlt | rfl | hgt
      · rw [compare_lt_iff_lt.mpr hlt,
          compare_lt_iff_lt.mpr (value_lt_of_exponent_lt hm hm' he he' hlt)]
        rfl
      · rw [compare_eq_iff_eq.mpr rfl, Ordering.eq_then]
        rcases lt_trichotomy m m' with hlt | rfl | hgt
        · have hvalue := mul_lt_mul_of_pos_right (Nat.cast_lt.mpr hlt) (two_zpow_pos e)
          rw [compare_lt_iff_lt.mpr hlt, compare_lt_iff_lt.mpr hvalue]
        · rw [compare_eq_iff_eq.mpr rfl, compare_eq_iff_eq.mpr rfl]
        · have hvalue := mul_lt_mul_of_pos_right (Nat.cast_lt.mpr hgt) (two_zpow_pos e)
          rw [compare_gt_iff_gt.mpr hgt, compare_gt_iff_gt.mpr hvalue]
      · rw [compare_gt_iff_gt.mpr hgt,
          compare_gt_iff_gt.mpr (value_lt_of_exponent_lt hm' hm he' he hgt)]
        rfl

/-- A double that stands for no larger number is no larger. -/
theorem le_of_denotes (hf : Denotes f v) (hg : Denotes g w) (h : v ≤ w) :
    f.le g = true ∧ g.lt f = false := by
  rw [UnpackedFloat.le, UnpackedFloat.lt, compare_of_denotes hf hg, compare_of_denotes hg hf]
  rcases h.lt_or_eq with hlt | rfl
  · rw [compare_lt_iff_lt.mpr hlt, compare_gt_iff_gt.mpr hlt]
    exact ⟨rfl, rfl⟩
  · rw [compare_eq_iff_eq.mpr rfl]
    exact ⟨rfl, rfl⟩

/-! ## Bits -/

/-- The sign of packed parts is the sign that was packed. -/
theorem unpackSign_packComponents (spec : Format) (s : Sign)
    (exponent : BitVec spec.exponentBits) (mantissa : BitVec spec.mantissaBitsWithoutImplicit) :
    unpackSign (packComponents spec s exponent mantissa) = s.toBitVec := by
  ext i hi
  obtain rfl : i = 0 := by omega
  simp [unpackSign, packComponents, BitVec.getLsbD_append, BitVec.getElem_append]

/-- The leading digit of a mantissa, which has no bit of its own. -/
theorem toNat_append_one (mantissa : BitVec 52) :
    (1#1 ++ mantissa).toNat = 2 ^ 52 + mantissa.toNat := by
  rw [BitVec.toNat_append, ← Nat.shiftLeft_add_eq_or_of_lt mantissa.isLt]
  rfl

/-- A sign is read back from its bit. -/
theorem ofBitVec_toBitVec (s : Sign) : Sign.ofBitVec s.toBitVec = s := by
  cases s <;> rfl

private theorem unpack_subnormal (s : Sign) (hm : 0 < m) (hlt : m < 2 ^ 52) :
    UnpackedFloat.unpack .binary64 (packComponents .binary64 s (0#11) (BitVec.ofNat 52 m)) =
      .finite s m (-1074) hm := by
  have hmantissa : (BitVec.ofNat 52 m).toNat = m := by
    rw [BitVec.toNat_ofNat, Nat.mod_eq_of_lt hlt]
  have hne : BitVec.ofNat 52 m ≠ 0#52 := by
    intro h
    rw [h] at hmantissa
    exact hm.ne hmantissa
  have hspecial : (0#11) ≠ -1#11 := by decide
  unfold UnpackedFloat.unpack
  simp only [unpackMantissa_packComponents, unpackExponent_packComponents,
    unpackSign_packComponents, ofBitVec_toBitVec, hspecial, if_false, if_true, hne, dite_false,
    hmantissa]
  rfl

private theorem unpack_normal (s : Sign) (hm : 2 ^ 52 ≤ m) (hlt : m < 2 ^ 53) {k : ℕ} (hk : 0 < k)
    (hk' : k < 2047) :
    UnpackedFloat.unpack .binary64
      (packComponents .binary64 s (BitVec.ofNat 11 k) (BitVec.ofNat 52 m)) =
      .finite s m (k - 1075) (by omega) := by
  have hexponent : (BitVec.ofNat 11 k).toNat = k := by
    rw [BitVec.toNat_ofNat, Nat.mod_eq_of_lt (by omega)]
  have hspecial : BitVec.ofNat 11 k ≠ -1#11 := by
    intro h
    rw [h] at hexponent
    exact hk'.ne hexponent.symm
  have hne : BitVec.ofNat 11 k ≠ 0#11 := by
    intro h
    rw [h] at hexponent
    exact hk.ne hexponent
  have hmantissa : (1#1 ++ BitVec.ofNat 52 m).toNat = m := by
    rw [toNat_append_one, BitVec.toNat_ofNat]
    omega
  unfold UnpackedFloat.unpack
  simp only [unpackMantissa_packComponents, unpackExponent_packComponents,
    unpackSign_packComponents, ofBitVec_toBitVec, hspecial, if_false, hne, hexponent, hmantissa]
  rfl

/-- A double with all its digits is below the largest power of two by its exponent. -/
private theorem lt_two_pow_iff (hlt : m < 2 ^ 53) (hfull : -1074 < e → 2 ^ 52 ≤ m) :
    (m : ℚ) * 2 ^ e < 2 ^ 1024 ↔ e ≤ 971 := by
  constructor
  · intro hsmall
    by_contra hgt
    have hdigits : 2 ^ 52 ≤ m := hfull (by omega)
    refine absurd hsmall (not_lt.mpr ?_)
    calc
      (2 : ℚ) ^ 1024 = 2 ^ 52 * 2 ^ (972 : ℤ) := by rw [zpow_ofNat, ← pow_add]
      _ ≤ (m : ℚ) * 2 ^ e :=
        mul_le_mul (by exact_mod_cast hdigits) (zpow_le_zpow_right₀ one_le_two (by omega))
          (two_zpow_pos _).le (Nat.cast_nonneg m)
  · intro hle
    calc
      (m : ℚ) * 2 ^ e < 2 ^ 53 * 2 ^ e :=
        mul_lt_mul_of_pos_right (by exact_mod_cast hlt) (two_zpow_pos e)
      _ ≤ 2 ^ 53 * 2 ^ (971 : ℤ) :=
        mul_le_mul_of_nonneg_left (zpow_le_zpow_right₀ (by norm_num) hle) (by positivity)
      _ = 2 ^ 1024 := by rw [zpow_ofNat, ← pow_add]

/-- A finite double keeps its digits in bits, unless it is too large for any double. -/
theorem unpack_pack_finite (s : Sign) (hm : 0 < m)
    (he : e = Format.binary64.targetExponent (totalExponent m e)) :
    (Float.Model.pack (.finite s m e hm)).unpack =
      if (m : ℚ) * 2 ^ e < 2 ^ 1024 then .finite s m e hm else .infinity s := by
  obtain ⟨hlt, hmin, hfull⟩ := canonical_bounds hm he
  change UnpackedFloat.unpack .binary64 (UnpackedFloat.pack .binary64 _) = _
  have hlarge := lt_two_pow_iff hlt hfull
  have hbiased : (e + (Format.binary64.exponentBias : ℤ) +
      (Format.binary64.mantissaBitsWithoutImplicit : ℤ)).toNat = (e + 1075).toNat := by
    rw [add_assoc]
    rfl
  simp only [UnpackedFloat.pack, hlarge, hbiased]
  by_cases hle : e ≤ 971
  · rw [if_pos hle, if_neg (by omega)]
    split
    next hlog =>
      have hdigits : 2 ^ 52 ≤ m := (Nat.le_log2 hm.ne').mp (Nat.le_of_eq (Nat.succ.inj hlog).symm)
      have hexponent : ((e + 1075).toNat : ℤ) - 1075 = e := by omega
      rw [unpack_normal s hdigits hlt (by omega) (by omega)]
      simp only [hexponent]
    next hlog =>
      have hdigits : m < 2 ^ 52 := by
        by_contra hge
        have hlog' := (Nat.le_log2 hm.ne').mpr (not_lt.mp hge)
        have hlog'' := (Nat.log2_lt hm.ne').mpr hlt
        have hbits : Format.binary64.mantissaBits = 53 := rfl
        omega
      obtain rfl : e = -1074 := by
        by_contra hne
        exact absurd (hfull (by omega)) (not_le.mpr hdigits)
      exact unpack_subnormal s hm hdigits
  · rw [if_neg hle, if_pos (by omega)]
    cases s <;> rfl

/-- A double that is not negative keeps its digits in bits, unless it is too large for any
double. -/
theorem unpack_pack (hf : Denotes f v) :
    (Float.Model.pack f).unpack = if v < 2 ^ 1024 then f else .infinity .positive := by
  cases hf with
  | zero =>
    rw [if_pos (by positivity)]
    rfl
  | finite hm he => exact unpack_pack_finite .positive hm he

end Adjudicator.Number
