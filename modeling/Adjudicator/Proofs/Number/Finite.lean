import Adjudicator.Number.Dyadic
import Adjudicator.Proofs.Number.Signed

/-!
# Values of doubles

A finite double has the value of its sign, mantissa and power of two. Main statement: an operation
on finite doubles gives the double nearest to the exact result, unless that is too large for any
double, and finite doubles are ordered as their values.
-/

namespace Adjudicator.Number

open Float.Model Float.Model.UnpackedFloat

/-- The number of a sign, a mantissa and a power of two. -/
def Dyadic.value (d : Dyadic) : ℚ :=
  (if d.negative then -1 else 1) * (d.mantissa * 2 ^ d.exponent)

/-- The number that a finite double stands for. -/
def value? (x : Float) : Option ℚ :=
  (dyadic? x).map Dyadic.value

variable {x y : Float} {d : Dyadic} {f : UnpackedFloat} {b : BitVec 64} {v w : ℚ}

/-! ## The parts of a double -/

private theorem toNat_unpackExponent (b : BitVec 64) :
    (@unpackExponent .binary64 b).toNat = b.toNat / 2 ^ 52 % 2 ^ 11 := by
  rw [unpackExponent, BitVec.toNat_cast, BitVec.extractLsb_toNat, Nat.shiftRight_eq_div_pow]
  rfl

/-- The mantissa is the lowest 52 bits. -/
theorem toNat_unpackMantissa (b : BitVec 64) :
    (@unpackMantissa .binary64 b).toNat = b.toNat % 2 ^ 52 := by
  rw [unpackMantissa, BitVec.toNat_cast, BitVec.extractLsb_toNat]
  rfl

/-- The sign of a sign bit. -/
def signOf (negative : Bool) : Sign :=
  if negative then .negative else .positive

/-- The sign is the highest bit. -/
theorem ofBitVec_unpackSign (b : BitVec 64) :
    Sign.ofBitVec (@unpackSign .binary64 b) = signOf (b.toNat / 2 ^ 63 == 1) := by
  have hlt : b.toNat / 2 ^ 63 < 2 := by
    have hb := b.isLt
    omega
  have htoNat : (@unpackSign .binary64 b).toNat = b.toNat / 2 ^ 63 := by
    rw [unpackSign, BitVec.toNat_cast, BitVec.extractLsb_toNat, Nat.shiftRight_eq_div_pow]
    exact Nat.mod_eq_of_lt hlt
  simp only [Sign.ofBitVec, signOf, ← BitVec.toNat_inj, htoNat]
  obtain h | h : b.toNat / 2 ^ 63 = 0 ∨ b.toNat / 2 ^ 63 = 1 := by omega
  · simp only [h]
    rfl
  · simp only [h]
    rfl

/-- The exponent is the eleven bits above the mantissa. -/
theorem unpackExponent_eq_iff {k : ℕ} (hk : k < 2 ^ 11) :
    @unpackExponent .binary64 b = BitVec.ofNat 11 k ↔ b.toNat / 2 ^ 52 % 2 ^ 11 = k := by
  rw [← BitVec.toNat_inj, toNat_unpackExponent, BitVec.toNat_ofNat, Nat.mod_eq_of_lt hk]

/-- The largest exponent is that of no number. -/
private theorem unpack_special (h : b.toNat / 2 ^ 52 % 2 ^ 11 = 2047) :
    (∃ s, UnpackedFloat.unpack .binary64 b = .infinity s) ∨
      UnpackedFloat.unpack .binary64 b = .notANumber := by
  have hexponent : @unpackExponent .binary64 b = -1#11 := (unpackExponent_eq_iff (by decide)).mpr h
  unfold UnpackedFloat.unpack
  simp only [hexponent, if_true]
  split
  · exact .inl ⟨_, rfl⟩
  · exact .inr rfl

/-- A sign in front of a number that has all digits of a double. -/
private theorem stands_finite (negative : Bool) {m : ℕ} {e : ℤ} (hm : 0 < m)
    (he : e = Format.binary64.targetExponent (totalExponent m e)) :
    Stands (.finite (signOf negative) m e hm) (Dyadic.mk negative m e).value := by
  have h := Stands.signed (signOf negative) (Denotes.finite hm he)
  cases negative <;> exact h

/-- The exponent zero is that of the smallest numbers. -/
private theorem unpack_small (h : b.toNat / 2 ^ 52 % 2 ^ 11 = 0) :
    Stands (UnpackedFloat.unpack .binary64 b)
      (Dyadic.mk (b.toNat / 2 ^ 63 == 1) (b.toNat % 2 ^ 52) (-1074)).value := by
  have hexponent : @unpackExponent .binary64 b = 0#11 := (unpackExponent_eq_iff (by decide)).mpr h
  have hmantissa := toNat_unpackMantissa b
  have hspecial : (0#11) ≠ -1#11 := by decide
  have hbias : ((0#11).toNat : ℤ) - ((Format.binary64.exponentBias : ℤ) +
      (Format.binary64.mantissaBitsWithoutImplicit : ℤ)) + 1 = -1074 := rfl
  unfold UnpackedFloat.unpack
  simp only [hexponent, ofBitVec_unpackSign, hspecial, if_false, if_true, hbias]
  split
  next hzero =>
    rw [hzero] at hmantissa
    have hvalue : Dyadic.value ⟨b.toNat / 2 ^ 63 == 1, b.toNat % 2 ^ 52, -1074⟩ = 0 := by
      rw [← hmantissa, Dyadic.value]
      exact mul_eq_zero_of_right _ (zero_mul _)
    have hs := Stands.signed (signOf (b.toNat / 2 ^ 63 == 1)) Denotes.zero
    rw [mul_zero] at hs
    rw [hvalue]
    cases hbit : b.toNat / 2 ^ 63 == 1 <;> rw [hbit] at hs <;> exact hs
  next hne =>
    have hpos : 0 < b.toNat % 2 ^ 52 := by
      rw [← hmantissa]
      exact Nat.pos_of_ne_zero fun h0 => hne (BitVec.eq_of_toNat_eq h0)
    simp only [hmantissa]
    refine stands_finite _ hpos ?_
    have hlog : (b.toNat % 2 ^ 52).log2 < 52 :=
      (Nat.log2_lt hpos.ne').mpr (Nat.mod_lt _ (by decide))
    rw [targetExponent_eq, totalExponent]
    omega

/-- Any other exponent comes with a leading digit that has no bit. -/
private theorem unpack_full (h : b.toNat / 2 ^ 52 % 2 ^ 11 ≠ 2047)
    (h' : b.toNat / 2 ^ 52 % 2 ^ 11 ≠ 0) :
    Stands (UnpackedFloat.unpack .binary64 b)
      (Dyadic.mk (b.toNat / 2 ^ 63 == 1) (b.toNat % 2 ^ 52 + 2 ^ 52)
        ((b.toNat / 2 ^ 52 % 2 ^ 11 : ℕ) - 1075)).value := by
  have hexponent : @unpackExponent .binary64 b ≠ -1#11 :=
    mt (unpackExponent_eq_iff (k := 2047) (by decide)).mp h
  have hexponent' : @unpackExponent .binary64 b ≠ 0#11 :=
    mt (unpackExponent_eq_iff (k := 0) (by decide)).mp h'
  have hmantissa : (1#1 ++ @unpackMantissa .binary64 b).toNat = b.toNat % 2 ^ 52 + 2 ^ 52 := by
    rw [toNat_append_one, toNat_unpackMantissa, Nat.add_comm]
  have hbias : (Format.binary64.exponentBias : ℤ) +
      (Format.binary64.mantissaBitsWithoutImplicit : ℤ) = 1075 := rfl
  unfold UnpackedFloat.unpack
  simp only [ofBitVec_unpackSign, toNat_unpackExponent, hmantissa, hexponent, hexponent', if_false,
    hbias]
  refine stands_finite _ (by omega) ?_
  have hlog : (b.toNat % 2 ^ 52 + 2 ^ 52).log2 = 52 := by
    rw [Nat.log2_eq_iff (by omega)]
    omega
  rw [targetExponent_eq, totalExponent]
  omega

/-- The sign, the mantissa and the power of two, read from the parts of the bits. -/
theorem dyadic?_eq (x : Float) :
    let b := x.toModel.toBits.toBitVec
    dyadic? x =
      if b.toNat / 2 ^ 52 % 2 ^ 11 = 2047 then none
      else if b.toNat / 2 ^ 52 % 2 ^ 11 = 0 then
        some ⟨b.toNat / 2 ^ 63 == 1, b.toNat % 2 ^ 52, -1074⟩
      else
        some ⟨b.toNat / 2 ^ 63 == 1, b.toNat % 2 ^ 52 + 2 ^ 52,
          (b.toNat / 2 ^ 52 % 2 ^ 11 : ℕ) - 1075⟩ :=
  rfl

/-- A double that has a sign, a mantissa and a power of two stands for their number. -/
theorem stands_of_dyadic? (h : dyadic? x = some d) : Stands x.toModel.unpack d.value := by
  rw [dyadic?_eq] at h
  split_ifs at h with hspecial hsmall
  · obtain rfl := Option.some.inj h
    exact unpack_small hsmall
  · obtain rfl := Option.some.inj h
    exact unpack_full hspecial hsmall

/-- Any other double is infinite or not a number. -/
theorem unpack_of_dyadic?_eq_none (h : dyadic? x = none) :
    (∃ s, x.toModel.unpack = .infinity s) ∨ x.toModel.unpack = .notANumber := by
  rw [dyadic?_eq] at h
  split_ifs at h with hspecial
  exact unpack_special hspecial

/-- The digits of a double and the places where they can stand. -/
theorem dyadic?_bounds (h : dyadic? x = some d) :
    d.mantissa < 2 ^ 53 ∧ -1074 ≤ d.exponent ∧ d.exponent ≤ 971 ∧
      (d.exponent ≠ -1074 → 2 ^ 52 ≤ d.mantissa) := by
  rw [dyadic?_eq] at h
  split_ifs at h with hspecial hsmall <;> obtain rfl := Option.some.inj h <;>
    refine ⟨?_, ?_, ?_, fun hne => ?_⟩ <;> dsimp only at * <;> omega

/-! ## Values -/

/-- A double stands for one number only. -/
theorem Stands.unique (h : Stands f v) (h' : Stands f w) : v = w := by
  have hcompare : compare v w = compare v v :=
    Option.some.inj ((h.compare_eq h').symm.trans (h.compare_eq h))
  exact compare_eq_iff_eq.mp (hcompare.trans (compare_eq_iff_eq.mpr rfl))

/-- The number of a double is the one that it stands for. -/
theorem value?_eq_some_iff : value? x = some v ↔ Stands x.toModel.unpack v := by
  rw [value?]
  cases hd : dyadic? x with
  | none =>
    refine iff_of_false nofun fun h => ?_
    have hfinite := h.isFinite
    rcases unpack_of_dyadic?_eq_none hd with ⟨s, hf⟩ | hf <;> rw [hf] at hfinite <;> cases hfinite
  | some d =>
    have hs := stands_of_dyadic? hd
    rw [Option.map_some, Option.some_inj]
    exact ⟨fun h => h ▸ hs, hs.unique⟩

/-- The absolute value is that of the mantissa and the power of two. -/
theorem abs_dyadic_value (d : Dyadic) : |d.value| = d.mantissa * 2 ^ d.exponent := by
  have hnonneg : (0 : ℚ) ≤ d.mantissa * 2 ^ d.exponent :=
    mul_nonneg (Nat.cast_nonneg _) (two_zpow_pos _).le
  rw [Dyadic.value]
  split
  · rw [neg_one_mul, abs_neg, abs_of_nonneg hnonneg]
  · rw [one_mul, abs_of_nonneg hnonneg]

/-- The number of a double is below the end of the doubles. -/
theorem abs_value_lt (hx : value? x = some v) : |v| < 2 ^ 1024 := by
  obtain ⟨d, hd, rfl⟩ := Option.map_eq_some_iff.mp hx
  obtain ⟨hmantissa, _, hexponent, _⟩ := dyadic?_bounds hd
  rw [abs_dyadic_value]
  calc
    (d.mantissa : ℚ) * 2 ^ d.exponent < 2 ^ 53 * 2 ^ d.exponent :=
      mul_lt_mul_of_pos_right (by exact_mod_cast hmantissa) (two_zpow_pos _)
    _ ≤ 2 ^ 53 * 2 ^ (971 : ℤ) :=
      mul_le_mul_of_nonneg_left (zpow_le_zpow_right₀ one_le_two hexponent) (by positivity)
    _ = 2 ^ 1024 := by rw [zpow_ofNat, ← pow_add]

/-! ## Operations -/

/-- A result that is not too large for doubles keeps its value in bits. -/
theorem value?_of_toModel (hf : Stands f v) (hx : x.toModel = Float.Model.pack f)
    (h : |v| < 2 ^ 1024) : value? x = some v := by
  rw [value?_eq_some_iff, hx]
  rcases hf.unpack_pack with ⟨hs, _⟩ | ⟨_, hge⟩
  · exact hs
  · exact absurd h (not_lt.mpr hge)

/-- A double with the other sign stands for the negated number. -/
theorem value?_neg (hx : value? x = some v) : value? (-x) = some (-v) :=
  value?_of_toModel (value?_eq_some_iff.mp hx).neg rfl (by rw [abs_neg]; exact abs_value_lt hx)

/-- Addition gives the rounded sum, as long as that is in range. -/
theorem value?_add (hx : value? x = some v) (hy : value? y = some w)
    (h : |rounded (v + w)| < 2 ^ 1024) : value? (x + y) = some (rounded (v + w)) :=
  value?_of_toModel ((value?_eq_some_iff.mp hx).add (value?_eq_some_iff.mp hy)) rfl h

/-- Subtraction gives the rounded difference, as long as that is in range. -/
theorem value?_sub (hx : value? x = some v) (hy : value? y = some w)
    (h : |rounded (v - w)| < 2 ^ 1024) : value? (x - y) = some (rounded (v - w)) :=
  value?_of_toModel ((value?_eq_some_iff.mp hx).sub (value?_eq_some_iff.mp hy)) rfl h

/-- Multiplication gives the rounded product, as long as that is in range. -/
theorem value?_mul (hx : value? x = some v) (hy : value? y = some w)
    (h : |rounded (v * w)| < 2 ^ 1024) : value? (x * y) = some (rounded (v * w)) :=
  value?_of_toModel ((value?_eq_some_iff.mp hx).mul (value?_eq_some_iff.mp hy)) rfl h

/-- Division by what is not zero gives the rounded quotient, as long as that is in range. -/
theorem value?_div (hx : value? x = some v) (hy : value? y = some w) (hw : w ≠ 0)
    (h : |rounded (v / w)| < 2 ^ 1024) : value? (x / y) = some (rounded (v / w)) :=
  value?_of_toModel ((value?_eq_some_iff.mp hx).div (value?_eq_some_iff.mp hy) hw) rfl h

/-- The sign bit of a finite double is the sign of its number. -/
theorem isNegative_of_dyadic? (h : dyadic? x = some d) : isNegative x = d.negative := by
  rw [dyadic?_eq] at h
  split_ifs at h <;> obtain rfl := Option.some.inj h <;> rfl

/-- The absolute value of a double stands for that of its number. -/
theorem value?_abs (hx : value? x = some v) : value? (abs x) = some |v| := by
  obtain ⟨d, hd, rfl⟩ := Option.map_eq_some_iff.mp hx
  rw [abs, isNegative_of_dyadic? hd, abs_dyadic_value]
  split
  next hneg =>
    rw [value?_neg hx, Dyadic.value, if_pos hneg, neg_one_mul, neg_neg]
  next hpos =>
    rw [hx, Dyadic.value, if_neg hpos, one_mul]

/-! ## Order -/

/-- Finite doubles are ordered as their numbers are. -/
theorem lt_iff (hx : value? x = some v) (hy : value? y = some w) : x < y ↔ v < w := by
  have hlt : x < y ↔ x.toModel.unpack.lt y.toModel.unpack = true := decide_eq_true_iff
  rw [hlt, UnpackedFloat.lt, (value?_eq_some_iff.mp hx).compare_eq (value?_eq_some_iff.mp hy),
    beq_iff_eq, Option.some_inj, compare_lt_iff_lt]

/-- Finite doubles are ordered as their numbers are, also when they may be equal. -/
theorem le_iff (hx : value? x = some v) (hy : value? y = some w) : x ≤ y ↔ v ≤ w := by
  have hle : x ≤ y ↔ x.toModel.unpack.le y.toModel.unpack = true := decide_eq_true_iff
  rw [hle, UnpackedFloat.le, (value?_eq_some_iff.mp hx).compare_eq (value?_eq_some_iff.mp hy),
    Option.any_some, Ordering.isLE_iff_ne_gt, compare_gt_iff_gt, not_lt]

/-- Finite doubles are equal exactly when their numbers are. -/
theorem beq_iff (hx : value? x = some v) (hy : value? y = some w) : (x == y) = true ↔ v = w := by
  change UnpackedFloat.beq x.toModel.unpack y.toModel.unpack = true ↔ _
  rw [UnpackedFloat.beq, (value?_eq_some_iff.mp hx).compare_eq (value?_eq_some_iff.mp hy),
    beq_iff_eq, Option.some_inj, compare_eq_iff_eq]

end Adjudicator.Number
