import Adjudicator.Proofs.Number.Nearest
import Mathlib

/-!
# Rounding to doubles

Arithmetic on doubles keeps the first digits of an exact result in a mantissa, and of the others
one bit each for the first of them and for all behind it. Main statement: with these two bits the
mantissa is rounded to the double nearest to the exact result, so whole numbers, products and
quotients become the nearest doubles.
-/

namespace Adjudicator.Number

open Float.Model Float.Model.UnpackedFloat

/-- A mantissa with the two bits behind it stands for a number: the bits say whether something
follows the mantissa and where it lies with respect to one half. -/
def Represents (em : ExtendedMantissa) (y : ℚ) : Prop :=
  match em.roundBit, em.stickyBit with
  | false, false => y = em.mantissa
  | false, true => em.mantissa < y ∧ y < em.mantissa + 1 / 2
  | true, false => y = em.mantissa + 1 / 2
  | true, true => em.mantissa + 1 / 2 < y ∧ y < em.mantissa + 1

/-- A double that is not negative stands for a number, and has as many digits as a double can
have. -/
inductive Denotes : UnpackedFloat → ℚ → Prop
  | zero : Denotes (.zero .positive) 0
  | finite {m : ℕ} {e : ℤ} (hm : 0 < m)
      (he : e = Format.binary64.targetExponent (totalExponent m e)) :
      Denotes (.finite .positive m e hm) (m * 2 ^ e)

variable {em : ExtendedMantissa} {acc : Accuracy} {f g : UnpackedFloat} {v w x y : ℚ} {m n : ℕ}
  {e : ℤ}

/-! ## Mantissas -/

/-- An exact mantissa stands for itself. -/
theorem represents_exact (m : ℕ) : Represents (.ofMantissaAndAccuracy m .exact) m :=
  rfl

/-- The mantissa is the whole part of the number. -/
theorem Represents.floor_eq (h : Represents em y) : ⌊y⌋₊ = em.mantissa := by
  obtain ⟨m, round, sticky⟩ := em
  have hm : (0 : ℚ) ≤ m := Nat.cast_nonneg m
  have hbounds : (m : ℚ) ≤ y ∧ y < m + 1 := by
    cases round <;> cases sticky <;> simp only [Represents] at h <;> constructor <;> linarith
  exact (Nat.floor_eq_iff (hm.trans hbounds.1)).mpr hbounds

/-- The two bits suffice to round half to even. -/
theorem Represents.roundedMantissa_eq (h : Represents em y) :
    em.roundedMantissa = halfEven y := by
  rw [halfEven, h.floor_eq]
  obtain ⟨m, round, sticky⟩ := em
  cases round <;> cases sticky <;>
    simp only [Represents] at h <;>
    simp only [ExtendedMantissa.roundedMantissa, ExtendedMantissa.accuracy,
      Accuracy.roundToNearestEven] <;>
    split_ifs <;> first | rfl | (exfalso; linarith)

/-- A shift by one digit halves the number. -/
theorem Represents.shiftRightOne (h : Represents em y) : Represents em.shiftRightOne (y / 2) := by
  obtain ⟨m, round, sticky⟩ := em
  have hsplit : (m : ℚ) = 2 * (m / 2 : ℕ) + (m % 2 : ℕ) := by
    exact_mod_cast (Nat.div_add_mod m 2).symm
  have hone : (1 != 0) = true := rfl
  rcases Nat.mod_two_eq_zero_or_one m with hmod | hmod <;> rw [hmod] at hsplit <;>
    push_cast at hsplit <;> cases round <;> cases sticky <;>
    simp only [Represents, ExtendedMantissa.shiftRightOne, hmod, hone, bne_self_eq_false,
      Bool.or_false, Bool.or_true] at h ⊢ <;>
    first | linarith | (constructor <;> linarith)

/-- A shift to the right divides the number by a power of two. -/
theorem Represents.shiftRight (h : Represents em y) (n : ℕ) :
    Represents (em >>> n) (y / 2 ^ n) := by
  change Represents (n.repeat ExtendedMantissa.shiftRightOne em) _
  induction n with
  | zero => simpa only [Nat.repeat, pow_zero, div_one] using h
  | succ n ih =>
    rw [Nat.repeat, pow_succ, ← div_div]
    exact ih.shiftRightOne

/-! ## Exponents -/

/-- The last place that is kept, down to that of the smallest doubles. -/
theorem targetExponent_eq (k : ℤ) : Format.binary64.targetExponent k = max (k - 53) (-1074) :=
  rfl

private theorem log_eq {k : ℤ} (hx : 0 < x) (hlow : 2 ^ k ≤ x) (hhigh : x < 2 ^ (k + 1)) :
    Int.log 2 x = k := by
  apply le_antisymm
  · have hlt : Int.log 2 x < k + 1 :=
      (Int.lt_zpow_iff_log_lt one_lt_two hx).mp (by exact_mod_cast hhigh)
    omega
  · exact (Int.zpow_le_iff_le_log one_lt_two hx).mp (by exact_mod_cast hlow)

/-- The exponent that is aimed at is the last place of the number. -/
theorem targetExponent_of_pos (h : ⌊y⌋₊ = m) (hm : 0 < m) (e : ℤ) :
    Format.binary64.targetExponent (totalExponent m e) = lastPlace (y * 2 ^ e) := by
  have hy : 0 < y := Nat.pos_of_floor_pos (h ▸ hm)
  obtain ⟨hlow, hhigh⟩ := (Nat.floor_eq_iff hy.le).mp h
  have hlog : Int.log 2 (y * 2 ^ e) = m.log2 + e := by
    apply log_eq (mul_pos hy (two_zpow_pos e))
    · rw [zpow_add₀ two_ne_zero]
      refine mul_le_mul_of_nonneg_right (le_trans ?_ hlow) (two_zpow_pos e).le
      exact_mod_cast Nat.log2_self_le hm.ne'
    · rw [add_right_comm, zpow_add₀ two_ne_zero]
      refine mul_lt_mul_of_pos_right (hhigh.trans_le ?_) (two_zpow_pos e)
      exact_mod_cast Nat.lt_log2_self
  rw [targetExponent_eq, totalExponent, lastPlace, hlog]
  omega

/-- As `targetExponent_of_pos`, also without any digit in the mantissa. -/
theorem targetExponent_of_le (h : ⌊y⌋₊ = m) (hy : 0 < y) (he : e ≤ lastPlace (y * 2 ^ e)) :
    Format.binary64.targetExponent (totalExponent m e) = lastPlace (y * 2 ^ e) := by
  rcases Nat.eq_zero_or_pos m with rfl | hm
  · have hlog : Int.log 2 (y * 2 ^ e) < e := by
      rw [← Int.lt_zpow_iff_log_lt one_lt_two (mul_pos hy (two_zpow_pos e))]
      exact mul_lt_of_lt_one_left (two_zpow_pos e) (Nat.floor_eq_zero.mp h)
    rw [targetExponent_eq, totalExponent, Nat.log2_zero]
    unfold lastPlace at he ⊢
    omega
  · exact targetExponent_of_pos h hm e

/-- Doubles have at most 53 digits, and all of them unless the exponent is the smallest. -/
theorem canonical_bounds (hm : 0 < m)
    (he : e = Format.binary64.targetExponent (totalExponent m e)) :
    m < 2 ^ 53 ∧ -1074 ≤ e ∧ (-1074 < e → 2 ^ 52 ≤ m) := by
  rw [targetExponent_eq, totalExponent] at he
  refine ⟨(Nat.log2_lt hm.ne').mp (by omega), by omega, fun hlt => ?_⟩
  exact (Nat.le_log2 hm.ne').mp (by omega)

/-! ## Rounding -/

private theorem shiftToExponent_eq {t : ℤ} (h : e ≤ t) :
    shiftToExponent m e acc t =
      (ExtendedMantissa.ofMantissaAndAccuracy m acc >>> (t - e).toNat, t) := by
  have ht : e + ((t - e).toNat : ℤ) = t := by omega
  simp only [shiftToExponent, ht]

private theorem shiftToExponent_self {t : ℤ} (h : t ≤ e) :
    shiftToExponent m e .exact t = (.ofMantissaAndAccuracy m .exact, e) := by
  have ht : (t - e).toNat = 0 := by omega
  simp only [shiftToExponent, ht, Nat.cast_zero, add_zero]
  rfl

/-- A rounded mantissa, which may have become one digit too long. -/
private theorem denotes_carry (hm : m ≤ 2 ^ 53) (he : -1074 ≤ e) (hfull : -1074 < e → 2 ^ 52 ≤ m) :
    let r := shiftToTargetExponent .binary64 m e .exact
    Denotes (if h : r.1.mantissa = 0 then .zero .positive
      else .finite .positive r.1.mantissa r.2 (Nat.pos_of_ne_zero h)) (m * 2 ^ e) := by
  intro r
  rcases hm.lt_or_eq with hlt | rfl
  · have hlog : m.log2 ≤ 52 := by
      rcases Nat.eq_zero_or_pos m with rfl | hpos
      · decide
      · exact Nat.le_of_lt_succ ((Nat.log2_lt hpos.ne').mpr hlt)
    have hr : r = (.ofMantissaAndAccuracy m .exact, e) := by
      refine shiftToExponent_self ?_
      rw [targetExponent_eq, totalExponent]
      omega
    rw [hr]
    split
    next hzero =>
      obtain rfl : m = 0 := hzero
      rw [Nat.cast_zero, zero_mul]
      exact .zero
    next hne =>
      refine .finite _ ?_
      have hcanonical : e = Format.binary64.targetExponent (totalExponent m e) := by
        rw [targetExponent_eq, totalExponent]
        rcases he.eq_or_lt with rfl | hlt
        · omega
        · have hlog' : 52 ≤ m.log2 := (Nat.le_log2 hne).mpr (hfull hlt)
          omega
      exact hcanonical
  · have hlog : (2 ^ 53 : ℕ).log2 = 53 := Nat.log2_two_pow
    have ht : Format.binary64.targetExponent (totalExponent (2 ^ 53) e) = e + 1 := by
      rw [targetExponent_eq, totalExponent, hlog]
      omega
    have hr : r = (ExtendedMantissa.ofMantissaAndAccuracy (2 ^ 53) .exact >>> 1, e + 1) := by
      have hone : (e + 1 - e).toNat = 1 := by omega
      rw [← hone, ← shiftToExponent_eq (by omega), ← ht]
      rfl
    have hvalue : ((2 ^ 53 : ℕ) : ℚ) * 2 ^ e = (2 ^ 52 : ℕ) * 2 ^ (e + 1) := by
      rw [zpow_add_one₀ two_ne_zero]
      push_cast
      ring
    rw [hr, hvalue]
    refine .finite (m := 2 ^ 52) (by decide) ?_
    rw [targetExponent_eq, totalExponent, Nat.log2_two_pow]
    omega

/-- What stands for a positive number is rounded to the double nearest to the number, when it has
digits up to the last place of the number. -/
theorem denotes_roundWithAccuracy (h : Represents (.ofMantissaAndAccuracy m acc) y) (hy : 0 < y)
    (he : e ≤ lastPlace (y * 2 ^ e)) :
    Denotes (roundWithAccuracy .binary64 .positive m e acc) (nearest (y * 2 ^ e)) := by
  have hpos : 0 < y * 2 ^ e := mul_pos hy (two_zpow_pos e)
  have hfloor : ⌊y⌋₊ = m := by
    rw [h.floor_eq]
    cases acc with
    | exact => rfl
    | inexact o => cases o <;> rfl
  have hfirst : shiftToTargetExponent .binary64 m e acc =
      (ExtendedMantissa.ofMantissaAndAccuracy m acc >>> (lastPlace (y * 2 ^ e) - e).toNat,
        lastPlace (y * 2 ^ e)) := by
    rw [shiftToTargetExponent, targetExponent_of_le hfloor hy he]
    exact shiftToExponent_eq he
  have hquotient : y / 2 ^ (lastPlace (y * 2 ^ e) - e).toNat =
      y * 2 ^ e / 2 ^ lastPlace (y * 2 ^ e) := by
    rw [← zpow_natCast, Int.toNat_of_nonneg (by omega), zpow_sub₀ two_ne_zero, div_div_eq_mul_div]
  have hrounded := (h.shiftRight (lastPlace (y * 2 ^ e) - e).toNat).roundedMantissa_eq
  rw [hquotient] at hrounded
  simp only [roundWithAccuracy, hfirst, hrounded]
  refine denotes_carry ?_ (le_max_right _ _) fun hlt => ?_
  · exact halfEven_le (by exact_mod_cast (div_lastPlace_lt _).le)
  · exact le_halfEven (by exact_mod_cast le_div_lastPlace hpos hlt)

/-! ## Arithmetic -/

/-- A positive number with a mantissa of any length is rounded to the nearest double. -/
theorem denotes_round (hm : 0 < m) (e : ℤ) :
    Denotes (UnpackedFloat.round .binary64 .positive m e) (nearest (m * 2 ^ e)) := by
  let t := Format.binary64.targetExponent (totalExponent m e)
  let k := (e - t).toNat
  have hvalue : ((m <<< k : ℕ) : ℚ) * 2 ^ (e - k) = m * 2 ^ e := by
    rw [Nat.shiftLeft_eq, zpow_sub₀ two_ne_zero, zpow_natCast]
    push_cast
    field_simp
  have ht : t = lastPlace (m * 2 ^ e) := targetExponent_of_pos (Nat.floor_natCast m) hm e
  have h := denotes_roundWithAccuracy (e := e - k) (represents_exact (m <<< k))
    (by rw [Nat.shiftLeft_eq]; positivity) (by rw [hvalue, ← ht]; omega)
  rw [hvalue] at h
  exact h

/-- A whole number of any size is rounded to the nearest double. -/
theorem denotes_ofNat (n : ℕ) : Denotes (UnpackedFloat.ofNat .binary64 n) (nearest n) := by
  rcases Nat.eq_zero_or_pos n with rfl | hn
  · rw [Nat.cast_zero, nearest_zero]
    exact .zero
  · have hcompare : compare (n : ℤ) 0 = .gt := compare_gt_iff_gt.mpr (by exact_mod_cast hn)
    have h := denotes_round hn 0
    rw [zpow_zero, mul_one] at h
    simp only [UnpackedFloat.ofNat, UnpackedFloat.ofInt, UnpackedFloat.normalize, hcompare,
      Int.toNat_natCast]
    exact h

/-- A product of doubles is the double nearest to the product. -/
theorem denotes_mul (hf : Denotes f v) (hg : Denotes g w) :
    Denotes (UnpackedFloat.mul .binary64 f g) (nearest (v * w)) := by
  cases hf with
  | zero =>
    rw [zero_mul, nearest_zero]
    cases hg <;> exact .zero
  | @finite m e hm he =>
    cases hg with
    | zero =>
      rw [mul_zero, nearest_zero]
      exact .zero
    | @finite m' e' hm' he' =>
      obtain ⟨_, hmin, hfull⟩ := canonical_bounds hm he
      obtain ⟨_, hmin', hfull'⟩ := canonical_bounds hm' he'
      have hpos : 0 < m * m' := Nat.mul_pos hm hm'
      have hvalue : (m : ℚ) * 2 ^ e * (m' * 2 ^ e') = (m * m' : ℕ) * 2 ^ (e + e') := by
        rw [zpow_add₀ two_ne_zero]
        push_cast
        ring
      have hplace : e + e' ≤ lastPlace ((m * m' : ℕ) * 2 ^ (e + e')) := by
        rw [← targetExponent_of_pos (Nat.floor_natCast (m * m')) hpos, targetExponent_eq,
          totalExponent]
        by_cases hsmall : e = -1074 ∧ e' = -1074
        · omega
        · have hdigits : 2 ^ 52 ≤ m * m' := by
            rcases not_and_or.mp hsmall with hne | hne
            · exact (hfull (by omega)).trans (Nat.le_mul_of_pos_right m hm')
            · exact (hfull' (by omega)).trans (Nat.le_mul_of_pos_left m' hm)
          have hlog := (Nat.le_log2 hpos.ne').mpr hdigits
          omega
      rw [hvalue]
      exact denotes_roundWithAccuracy (represents_exact (m * m')) (by exact_mod_cast hpos) hplace

/-- What is left of a division says how the quotient goes on. -/
theorem represents_div (m : ℕ) (hn : 0 < n) :
    Represents (.ofMantissaAndAccuracy (m / n) (accuracyOfFraction (m % n) n)) (m / n) := by
  have hpos : (0 : ℚ) < n := by exact_mod_cast hn
  have hsplit : (m : ℚ) / n = (m / n : ℕ) + (m % n : ℕ) / n := by
    rw [div_eq_iff hpos.ne', add_mul, div_mul_cancel₀ _ hpos.ne']
    exact_mod_cast (Nat.div_add_mod' m n).symm
  have hlt : ((m % n : ℕ) : ℚ) / n < 1 := by
    rw [div_lt_one hpos]
    exact_mod_cast Nat.mod_lt m hn
  rw [hsplit, accuracyOfFraction]
  split
  next hzero =>
    rw [hzero, Nat.cast_zero, zero_div, add_zero]
    exact represents_exact _
  next hne =>
    have hrest : (0 : ℚ) < (m % n : ℕ) / n := by
      have hmod : 0 < m % n := Nat.pos_of_ne_zero hne
      positivity
    cases hcompare : compare (2 * (m % n)) n with
    | lt =>
      have h : (2 : ℚ) * (m % n : ℕ) < n := by
        exact_mod_cast compare_lt_iff_lt.mp hcompare
      have hlow : ((m % n : ℕ) : ℚ) / n < 1 / 2 := by
        rw [div_lt_div_iff₀ hpos two_pos]
        linarith
      exact ⟨lt_add_of_pos_right _ hrest, (add_lt_add_iff_left _).mpr hlow⟩
    | eq =>
      have h : (2 : ℚ) * (m % n : ℕ) = n := by
        exact_mod_cast compare_eq_iff_eq.mp hcompare
      have heq : ((m % n : ℕ) : ℚ) / n = 1 / 2 := by
        rw [div_eq_div_iff hpos.ne' two_ne_zero]
        linarith
      rw [heq]
      rfl
    | gt =>
      have h : (n : ℚ) < 2 * (m % n : ℕ) := by
        exact_mod_cast compare_gt_iff_gt.mp hcompare
      have hhigh : 1 / 2 < ((m % n : ℕ) : ℚ) / n := by
        rw [div_lt_div_iff₀ two_pos hpos]
        linarith
      exact ⟨(add_lt_add_iff_left _).mpr hhigh, (add_lt_add_iff_left _).mpr hlt⟩

private theorem two_zpow_le (hm : 0 < m) (e : ℤ) : (2 : ℚ) ^ (m.log2 + e) ≤ m * 2 ^ e := by
  rw [zpow_add₀ two_ne_zero]
  refine mul_le_mul_of_nonneg_right ?_ (two_zpow_pos e).le
  exact_mod_cast Nat.log2_self_le hm.ne'

private theorem lt_two_zpow (m : ℕ) (e : ℤ) : (m : ℚ) * 2 ^ e < 2 ^ (m.log2 + 1 + e) := by
  rw [zpow_add₀ two_ne_zero]
  refine mul_lt_mul_of_pos_right ?_ (two_zpow_pos e)
  exact_mod_cast Nat.lt_log2_self

/-- A quotient of numbers with mantissas of any length is rounded to the nearest double. -/
theorem denotes_div_finite {m' : ℕ} {e' : ℤ} (hm : 0 < m) (hm' : 0 < m') :
    Denotes (UnpackedFloat.div .binary64 (.finite .positive m e hm) (.finite .positive m' e' hm'))
      (nearest (m * 2 ^ e / (m' * 2 ^ e'))) := by
  let d := totalExponent m e - totalExponent m' e'
  let t := min (e - e') (Format.binary64.targetExponent d)
  let k := (e - e' - t).toNat
  have hpos : 0 < (m : ℚ) * 2 ^ e := mul_pos (by exact_mod_cast hm) (two_zpow_pos e)
  have hpos' : 0 < (m' : ℚ) * 2 ^ e' := mul_pos (by exact_mod_cast hm') (two_zpow_pos e')
  have hvalue : ((m <<< k : ℕ) : ℚ) / m' * 2 ^ t = m * 2 ^ e / (m' * 2 ^ e') := by
    have hk : (2 : ℚ) ^ k * 2 ^ t * 2 ^ e' = 2 ^ e := by
      rw [← zpow_natCast, ← zpow_add₀ two_ne_zero, ← zpow_add₀ two_ne_zero]
      congr 1
      omega
    rw [Nat.shiftLeft_eq, div_mul_eq_mul_div,
      div_eq_div_iff (by exact_mod_cast hm'.ne') hpos'.ne', ← hk]
    push_cast
    ring
  have hplace : t ≤ lastPlace (m * 2 ^ e / (m' * 2 ^ e')) := by
    have hlog : d - 1 ≤ Int.log 2 ((m : ℚ) * 2 ^ e / (m' * 2 ^ e')) := by
      rw [← Int.zpow_le_iff_le_log one_lt_two (div_pos hpos hpos'), le_div_iff₀ hpos']
      calc
        (2 : ℚ) ^ (d - 1) * (m' * 2 ^ e') ≤ 2 ^ (d - 1) * 2 ^ (m'.log2 + 1 + e') :=
          mul_le_mul_of_nonneg_left (lt_two_zpow m' e').le (two_zpow_pos _).le
        _ = 2 ^ (m.log2 + e) := by
          rw [← zpow_add₀ two_ne_zero]
          congr 1
          simp only [d, totalExponent]
          ring
        _ ≤ m * 2 ^ e := two_zpow_le hm e
    have ht : t ≤ max (d - 53) (-1074) := min_le_right _ _
    unfold lastPlace
    omega
  have h := denotes_roundWithAccuracy (e := t) (represents_div (m <<< k) hm')
    (div_pos (by rw [Nat.shiftLeft_eq]; positivity) (by exact_mod_cast hm'))
    (by rw [hvalue]; exact hplace)
  rw [hvalue] at h
  exact h

/-- A quotient of doubles is the double nearest to the quotient. -/
theorem denotes_div (hf : Denotes f v) (hg : Denotes g w) (hw : 0 < w) :
    Denotes (UnpackedFloat.div .binary64 f g) (nearest (v / w)) := by
  cases hg with
  | zero => exact absurd hw (lt_irrefl 0)
  | finite hm' he' =>
    cases hf with
    | zero =>
      rw [zero_div, nearest_zero]
      exact .zero
    | finite hm he => exact denotes_div_finite hm hm'

end Adjudicator.Number
