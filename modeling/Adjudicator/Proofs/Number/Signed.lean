import Adjudicator.Proofs.Number.Packing

/-!
# Doubles with signs

A finite double is a sign in front of a double that is not negative. Main statement: sums,
differences, products and quotients of finite doubles are the doubles nearest to the exact
results, and finite doubles are compared as the numbers that they stand for.
-/

namespace Adjudicator.Number

open Float.Model Float.Model.UnpackedFloat

/-- A sign as a number. -/
def unit : Sign → ℚ
  | .positive => 1
  | .negative => -1

/-- A double with a sign put in front. -/
def signed : Sign → UnpackedFloat → UnpackedFloat
  | .positive, f => f
  | .negative, f => f.neg

/-- A finite double stands for a number, and has as many digits as a double can have. -/
inductive Stands : UnpackedFloat → ℚ → Prop
  | signed (s : Sign) {f : UnpackedFloat} {v : ℚ} (h : Denotes f v) :
      Stands (signed s f) (unit s * v)

/-- The double nearest to a number, when the numbers of doubles have no ends. -/
def rounded (x : ℚ) : ℚ :=
  if x < 0 then -nearest (-x) else nearest x

variable {f g : UnpackedFloat} {u v w x : ℚ} {m : ℕ} {e : ℤ} {s t : Sign}

/-! ## Rounding with a sign -/

/-- Without its sign a double denotes a number that is not negative. -/
theorem Denotes.nonneg (h : Denotes f v) : 0 ≤ v := by
  cases h with
  | zero => exact le_rfl
  | finite hm he => exact mul_nonneg (Nat.cast_nonneg _) (two_zpow_pos _).le

/-- The number of a double is its own nearest double. -/
theorem Denotes.nearest_eq (h : Denotes f v) : nearest v = v := by
  cases h with
  | zero => exact nearest_zero
  | @finite m e hm he =>
    have hplace : lastPlace (m * 2 ^ e) = e := by
      rw [← targetExponent_of_pos (Nat.floor_natCast m) hm, ← he]
    refine nearest_eq_self (k := m) ?_
    rw [hplace, mul_div_cancel_right₀ _ (two_zpow_pos e).ne']

/-- Rounding leaves the sign alone. -/
theorem rounded_unit_mul (s : Sign) (hv : 0 ≤ v) : rounded (unit s * v) = unit s * nearest v := by
  cases s with
  | positive => rw [unit, one_mul, one_mul, rounded, if_neg (not_lt.mpr hv)]
  | negative =>
    rw [unit, neg_one_mul, neg_one_mul, rounded]
    rcases hv.eq_or_lt with rfl | hpos
    · rw [neg_zero, if_neg (lt_irrefl 0), nearest_zero, neg_zero]
    · rw [if_pos (neg_neg_of_pos hpos), neg_neg]

/-- What is not negative is rounded to the nearest double. -/
theorem rounded_of_nonneg (hx : 0 ≤ x) : rounded x = nearest x := by
  rw [rounded, if_neg (not_lt.mpr hx)]

/-- Rounding of a negated number is the negated rounding. -/
theorem rounded_neg (x : ℚ) : rounded (-x) = -rounded x := by
  rcases le_total 0 x with hx | hx
  · have h := rounded_unit_mul .negative hx
    rw [unit, neg_one_mul, neg_one_mul] at h
    rw [h, rounded_of_nonneg hx]
  · have h := rounded_unit_mul .negative (neg_nonneg.mpr hx)
    rw [unit, neg_one_mul, neg_one_mul, neg_neg] at h
    rw [h, rounded_of_nonneg (neg_nonneg.mpr hx), neg_neg]

/-- The absolute value of a signed number is the number. -/
theorem abs_unit_mul (s : Sign) (hv : 0 ≤ v) : |unit s * v| = v := by
  cases s with
  | positive => rw [unit, one_mul, abs_of_nonneg hv]
  | negative => rw [unit, neg_one_mul, abs_neg, abs_of_nonneg hv]

/-- The sign of a product is the product of the signs. -/
theorem unit_mul_unit (s t : Sign) : unit s * unit t = unit (s * t) := by
  cases s <;> cases t <;> norm_num [unit]

/-- The absolute value is rounded like the number. -/
theorem abs_rounded (x : ℚ) : |rounded x| = nearest |x| := by
  rcases le_total 0 x with hx | hx
  · rw [rounded_of_nonneg hx, abs_of_nonneg (nearest_nonneg x), abs_of_nonneg hx]
  · have h := rounded_neg (-x)
    rw [neg_neg, rounded_of_nonneg (neg_nonneg.mpr hx)] at h
    rw [h, abs_neg, abs_of_nonneg (nearest_nonneg _), abs_of_nonpos hx]

/-- A number up to a power of two is not rounded beyond it. -/
theorem abs_rounded_le {k : ℕ} (h : |x| ≤ 2 ^ k) : |rounded x| ≤ 2 ^ k := by
  rw [abs_rounded, ← nearest_two_pow k]
  exact nearest_mono (abs_nonneg x) h

/-- Rounding a number below a power of two moves it by at most half the last place there. -/
theorem abs_rounded_sub_le {k : ℤ} (hk : -1021 ≤ k) (h : |x| < 2 ^ k) :
    |rounded x - x| ≤ 2 ^ (k - 54) := by
  rcases le_total 0 x with hx | hx
  · rw [abs_of_nonneg hx] at h
    rw [rounded_of_nonneg hx]
    exact abs_nearest_sub_le_of_lt hk hx h
  · have hneg := rounded_neg (-x)
    rw [neg_neg, rounded_of_nonneg (neg_nonneg.mpr hx)] at hneg
    rw [abs_of_nonpos hx] at h
    rw [hneg, neg_sub_left, abs_neg, add_comm, ← sub_neg_eq_add]
    exact abs_nearest_sub_le_of_lt hk (neg_nonneg.mpr hx) h

/-- A number below a power of two that doubles reach has a nearest double, with an error by this
power. -/
theorem rounded_bounds {k : ℕ} (hk : k ≤ 1023) (h : |x| < 2 ^ k) :
    |rounded x| < 2 ^ 1024 ∧ |rounded x - x| ≤ 2 ^ ((k : ℤ) - 54) := by
  refine ⟨(abs_rounded_le h.le).trans_lt (pow_lt_pow_right₀ one_lt_two (by omega)), ?_⟩
  exact abs_rounded_sub_le (by omega) (by exact_mod_cast h)

/-- A double without a sign stands for the number that it denotes. -/
theorem Denotes.stands (h : Denotes f v) : Stands f v := by
  have hs := Stands.signed .positive h
  rw [unit, one_mul] at hs
  exact hs

/-- What stands for a positive number has no sign. -/
theorem Stands.denotes (h : Stands f v) (hv : 0 < v) : Denotes f v := by
  obtain ⟨s, h⟩ := h
  cases s with
  | positive =>
    rw [unit, one_mul]
    exact h
  | negative =>
    rw [unit, neg_one_mul, neg_pos] at hv
    exact absurd hv (not_lt.mpr h.nonneg)

/-- With the other sign it stands for the negated number. -/
theorem Stands.neg (h : Stands f v) : Stands f.neg (-v) := by
  obtain ⟨s, h⟩ := h
  cases s with
  | positive =>
    have hs := Stands.signed .negative h
    rw [unit, neg_one_mul] at hs
    rw [unit, one_mul]
    exact hs
  | negative =>
    rw [unit, neg_one_mul, neg_neg]
    have hs := h.stands
    cases h <;> exact hs

/-- A double that stands for a number is finite. -/
theorem Stands.isFinite (h : Stands f v) : f.isFinite = true := by
  obtain ⟨s, h⟩ := h
  cases h <;> cases s <;> rfl

/-- The number of a double is rounded to itself. -/
theorem Stands.rounded_eq (h : Stands f v) : rounded v = v := by
  obtain ⟨s, h⟩ := h
  rw [rounded_unit_mul s h.nonneg, h.nearest_eq]

/-! ## Arithmetic -/

private theorem roundWithAccuracy_signed (s : Sign) (m : ℕ) (e : ℤ) (acc : Accuracy) :
    roundWithAccuracy .binary64 s m e acc =
      signed s (roundWithAccuracy .binary64 .positive m e acc) := by
  cases s with
  | positive => rfl
  | negative =>
    simp only [roundWithAccuracy, signed]
    split <;> rfl

private theorem mul_signed (hf : Denotes f v) (hg : Denotes g w) :
    UnpackedFloat.mul .binary64 (signed s f) (signed t g) =
      signed (s * t) (UnpackedFloat.mul .binary64 f g) := by
  cases hf with
  | zero => cases hg <;> cases s <;> cases t <;> rfl
  | finite hm he =>
    cases hg with
    | zero => cases s <;> cases t <;> rfl
    | finite hm' he' =>
      cases s <;> cases t <;> first | exact roundWithAccuracy_signed .positive _ _ _ |
        exact roundWithAccuracy_signed .negative _ _ _

private theorem div_signed (hf : Denotes f v) (hg : Denotes g w) (hw : 0 < w) :
    UnpackedFloat.div .binary64 (signed s f) (signed t g) =
      signed (s * t) (UnpackedFloat.div .binary64 f g) := by
  cases hg with
  | zero => exact absurd hw (lt_irrefl 0)
  | finite hm' he' =>
    cases hf with
    | zero => cases s <;> cases t <;> rfl
    | finite hm he =>
      cases s <;> cases t <;> first | exact roundWithAccuracy_signed .positive _ _ _ |
        exact roundWithAccuracy_signed .negative _ _ _

/-- A product is the double nearest to the product. -/
theorem Stands.mul (hf : Stands f v) (hg : Stands g w) :
    Stands (UnpackedFloat.mul .binary64 f g) (rounded (v * w)) := by
  obtain ⟨s, hf⟩ := hf
  obtain ⟨t, hg⟩ := hg
  rw [mul_signed hf hg, mul_mul_mul_comm, unit_mul_unit,
    rounded_unit_mul _ (mul_nonneg hf.nonneg hg.nonneg)]
  exact .signed _ (denotes_mul hf hg)

/-- A quotient is the double nearest to the quotient. -/
theorem Stands.div (hf : Stands f v) (hg : Stands g w) (hw : w ≠ 0) :
    Stands (UnpackedFloat.div .binary64 f g) (rounded (v / w)) := by
  obtain ⟨s, hf⟩ := hf
  obtain ⟨t, hg⟩ := hg
  have hpos := hg.nonneg.lt_of_ne' (right_ne_zero_of_mul hw)
  have hinv : (unit t)⁻¹ = unit t := by
    cases t <;> norm_num [unit]
  rw [div_signed hf hg hpos, div_eq_mul_inv, mul_inv, mul_mul_mul_comm, hinv, unit_mul_unit,
    ← div_eq_mul_inv, rounded_unit_mul _ (div_nonneg hf.nonneg hg.nonneg)]
  exact .signed _ (denotes_div hf hg hpos)

private theorem round_signed (s : Sign) (m : ℕ) (e : ℤ) :
    UnpackedFloat.round .binary64 s m e =
      signed s (UnpackedFloat.round .binary64 .positive m e) :=
  roundWithAccuracy_signed s _ _ _

/-- A mantissa with a sign and of any length is rounded to the nearest double. -/
private theorem stands_normalize (k e : ℤ) :
    Stands (UnpackedFloat.normalize .binary64 k e .positive) (rounded (k * 2 ^ e)) := by
  rcases lt_trichotomy k 0 with hneg | rfl | hpos
  · have hcompare : compare k 0 = .lt := compare_lt_iff_lt.mpr hneg
    have hvalue : (k : ℚ) * 2 ^ e = unit .negative * ((-k).toNat * 2 ^ e) := by
      have hcast : (((-k).toNat : ℤ) : ℚ) = (-k : ℤ) := by
        rw [Int.toNat_of_nonneg (by omega)]
      rw [Int.cast_natCast, Int.cast_neg] at hcast
      rw [hcast, unit]
      ring
    rw [UnpackedFloat.normalize, hcompare, hvalue, round_signed,
      rounded_unit_mul _ (mul_nonneg (Nat.cast_nonneg _) (two_zpow_pos e).le)]
    exact .signed _ (denotes_round (by omega) e)
  · have hzero : rounded 0 = 0 := by rw [rounded_of_nonneg le_rfl, nearest_zero]
    rw [Int.cast_zero, zero_mul, hzero]
    exact Denotes.zero.stands
  · have hcompare : compare k 0 = .gt := compare_gt_iff_gt.mpr hpos
    have hvalue : (k : ℚ) * 2 ^ e = k.toNat * 2 ^ e := by
      have hcast : ((k.toNat : ℤ) : ℚ) = k := by
        rw [Int.toNat_of_nonneg hpos.le]
      rw [← hcast, Int.cast_natCast]
    rw [UnpackedFloat.normalize, hcompare, hvalue,
      rounded_of_nonneg (mul_nonneg (Nat.cast_nonneg _) (two_zpow_pos e).le)]
    exact (denotes_round (by omega) e).stands

/-- A smaller exponent and a longer mantissa give the same number. -/
private theorem apply_decreaseExponent (s : Sign) (m : ℕ) {e t : ℤ} (h : t ≤ e) :
    (s.apply (decreaseExponent m e t).1 : ℚ) * 2 ^ t = unit s * (m * 2 ^ e) := by
  have hk : (2 : ℚ) ^ (e - t).toNat * 2 ^ t = 2 ^ e := by
    rw [← zpow_natCast, ← zpow_add₀ two_ne_zero]
    congr 1
    omega
  have hvalue : ((decreaseExponent m e t).1 : ℚ) * 2 ^ t = m * 2 ^ e := by
    rw [decreaseExponent, Nat.shiftLeft_eq, Nat.cast_mul, Nat.cast_pow, Nat.cast_ofNat, mul_assoc,
      hk]
  cases s with
  | positive => rw [unit, one_mul, ← hvalue, Sign.apply, Int.cast_natCast]
  | negative =>
    rw [unit, neg_one_mul, ← hvalue, Sign.apply, Int.cast_neg, Int.cast_natCast, neg_mul]

private theorem signed_finite (s : Sign) (hm : 0 < m) :
    signed s (.finite .positive m e hm) = .finite s m e hm := by
  cases s <;> rfl

private theorem signed_zero (s : Sign) : signed s (.zero .positive) = .zero s := by
  cases s <;> rfl

private theorem stands_zero (s : Sign) : Stands (.zero s) 0 := by
  have h := Stands.signed s Denotes.zero
  rw [mul_zero, signed_zero] at h
  exact h

/-- A sum is the double nearest to the sum. -/
theorem Stands.add (hf : Stands f v) (hg : Stands g w) :
    Stands (UnpackedFloat.add .binary64 f g) (rounded (v + w)) := by
  have hv := hf.rounded_eq
  have hw := hg.rounded_eq
  have hf' := hf
  have hg' := hg
  obtain ⟨s, hf⟩ := hf
  obtain ⟨t, hg⟩ := hg
  cases hf with
  | zero =>
    rw [mul_zero, zero_add, hw]
    cases hg with
    | zero =>
      rw [mul_zero]
      cases s <;> cases t <;> exact stands_zero _
    | finite hm' he' => cases s <;> cases t <;> exact hg'
  | @finite m e hm he =>
    cases hg with
    | zero =>
      rw [mul_zero, add_zero, hv]
      cases s <;> cases t <;> exact hf'
    | @finite m' e' hm' he' =>
      have hsum : unit s * (m * 2 ^ e) + unit t * (m' * 2 ^ e') =
          ((s.apply (decreaseExponent m e (min e e')).1 +
            t.apply (decreaseExponent m' e' (min e e')).1 : ℤ) : ℚ) * 2 ^ min e e' := by
        rw [Int.cast_add, add_mul, apply_decreaseExponent s m (min_le_left e e'),
          apply_decreaseExponent t m' (min_le_right e e')]
      rw [hsum, signed_finite, signed_finite]
      exact stands_normalize _ _

private theorem apply_neg (s : Sign) (n : ℤ) : (-s).apply n = -s.apply n := by
  cases s with
  | positive => rfl
  | negative => exact (neg_neg n).symm

private theorem sub_signed (hf : Denotes f v) (hg : Denotes g w) :
    UnpackedFloat.sub .binary64 (signed s f) (signed t g) =
      UnpackedFloat.add .binary64 (signed s f) (signed t g).neg := by
  cases hf with
  | zero => cases hg <;> cases s <;> cases t <;> rfl
  | finite hm he =>
    cases hg with
    | zero => cases s <;> cases t <;> rfl
    | finite hm' he' =>
      rw [signed_finite, signed_finite, UnpackedFloat.neg]
      simp only [UnpackedFloat.sub, UnpackedFloat.add, apply_neg, sub_eq_add_neg]

/-- A difference is the double nearest to the difference. -/
theorem Stands.sub (hf : Stands f v) (hg : Stands g w) :
    Stands (UnpackedFloat.sub .binary64 f g) (rounded (v - w)) := by
  have h := hf.add hg.neg
  obtain ⟨s, hf⟩ := hf
  obtain ⟨t, hg⟩ := hg
  rw [sub_signed hf hg, sub_eq_add_neg]
  exact h

/-! ## Order and bits -/

private theorem compare_neg (hf : Denotes f v) (hg : Denotes g w) :
    f.neg.compare g.neg = some (compare (-v) (-w)) := by
  have hswap : f.neg.compare g.neg = (f.compare g).map Ordering.swap := by
    cases hf <;> cases hg <;> rfl
  rw [hswap, compare_of_denotes hf hg, Option.map_some]
  rcases lt_trichotomy v w with hlt | rfl | hgt
  · rw [compare_lt_iff_lt.mpr hlt, compare_gt_iff_gt.mpr (neg_lt_neg hlt)]
    rfl
  · rw [compare_eq_iff_eq.mpr rfl, compare_eq_iff_eq.mpr rfl]
    rfl
  · rw [compare_gt_iff_gt.mpr hgt, compare_lt_iff_lt.mpr (neg_lt_neg hgt)]
    rfl

private theorem compare_neg_right (hf : Denotes f v) (hg : Denotes g w) :
    f.compare g.neg = some (compare v (-w)) ∧ g.neg.compare f = some (compare (-w) v) := by
  cases hg with
  | zero =>
    rw [neg_zero]
    cases hf with
    | zero => exact ⟨rfl, rfl⟩
    | finite hm he =>
      have h := compare_of_denotes (.finite hm he) .zero
      have h' := compare_of_denotes .zero (.finite hm he)
      exact ⟨h, h'⟩
  | @finite m e hm he =>
    have hneg : -((m : ℚ) * 2 ^ e) < v :=
      (neg_neg_of_pos (mul_pos (by exact_mod_cast hm) (two_zpow_pos e))).trans_le hf.nonneg
    rw [compare_gt_iff_gt.mpr hneg, compare_lt_iff_lt.mpr hneg]
    cases hf <;> exact ⟨rfl, rfl⟩

/-- Finite doubles are compared as the numbers that they stand for. -/
theorem Stands.compare_eq (hf : Stands f v) (hg : Stands g w) :
    f.compare g = some (compare v w) := by
  obtain ⟨s, hf⟩ := hf
  obtain ⟨t, hg⟩ := hg
  cases s <;> cases t <;> simp only [unit, neg_one_mul, one_mul]
  · exact compare_neg hf hg
  · exact (compare_neg_right hg hf).2
  · exact (compare_neg_right hf hg).1
  · exact compare_of_denotes hf hg

/-- A finite double keeps its digits in bits, unless it is too large for any double. -/
theorem Stands.unpack_pack (hf : Stands f v) :
    Stands (Float.Model.pack f).unpack v ∧ |v| < 2 ^ 1024 ∨
      (∃ s, (Float.Model.pack f).unpack = .infinity s) ∧ 2 ^ 1024 ≤ |v| := by
  have hf' := hf
  obtain ⟨s, hf⟩ := hf
  rw [abs_unit_mul s hf.nonneg]
  cases hf with
  | zero =>
    rw [signed_zero] at hf' ⊢
    exact .inl ⟨by cases s <;> exact hf', by positivity⟩
  | @finite m e hm he =>
    rw [signed_finite] at hf' ⊢
    rw [unpack_pack_finite s hm he]
    split
    next hlt => exact .inl ⟨hf', hlt⟩
    next hge => exact .inr ⟨⟨s, rfl⟩, not_lt.mp hge⟩

end Adjudicator.Number
