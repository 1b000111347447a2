import Mathlib.Algebra.Order.Floor.Semifield
import Mathlib.Data.Int.Log
import Mathlib.Data.Rat.Floor
import Mathlib.Tactic.FieldSimp
import Mathlib.Tactic.Linarith
import Mathlib.Tactic.NormNum
import Mathlib.Tactic.Positivity
import Mathlib.Tactic.Ring

/-!
# Nearest doubles

Doubles have 53 binary digits down to a smallest last place. The double nearest to a number is a
whole multiple of the last place of the number, rounded half to even. Main statement: a larger
number has no smaller nearest double, also across a change of the last place.
-/

namespace Adjudicator.Number

/-- The whole number nearest to a number that is not negative; of two the even one. -/
def halfEven (y : ℚ) : ℕ :=
  if y - ⌊y⌋₊ < 1 / 2 then ⌊y⌋₊ else if 1 / 2 < y - ⌊y⌋₊ then ⌊y⌋₊ + 1 else ⌊y⌋₊ + ⌊y⌋₊ % 2

/-- The place of the last binary digit of a double near a number. -/
def lastPlace (x : ℚ) : ℤ :=
  max (Int.log 2 x - 52) (-1074)

/-- The double nearest to a number that is not negative, when the numbers of doubles have no upper
end. -/
def nearest (x : ℚ) : ℚ :=
  halfEven (x / 2 ^ lastPlace x) * 2 ^ lastPlace x

variable {x y : ℚ}

/-- Rounding does not go below the whole part. -/
theorem floor_le_halfEven (y : ℚ) : ⌊y⌋₊ ≤ halfEven y := by
  unfold halfEven
  split_ifs <;> omega

/-- Rounding goes at most to the next whole number. -/
theorem halfEven_le_floor_succ (y : ℚ) : halfEven y ≤ ⌊y⌋₊ + 1 := by
  unfold halfEven
  split_ifs <;> omega

/-- Rounding to a whole number keeps the order. -/
theorem halfEven_mono (h : x ≤ y) : halfEven x ≤ halfEven y := by
  rcases Nat.lt_or_ge ⌊x⌋₊ ⌊y⌋₊ with hlt | hge
  · calc
      halfEven x ≤ ⌊x⌋₊ + 1 := halfEven_le_floor_succ x
      _ ≤ ⌊y⌋₊ := hlt
      _ ≤ halfEven y := floor_le_halfEven y
  · have hfloor : ⌊x⌋₊ = ⌊y⌋₊ := Nat.le_antisymm (Nat.floor_mono h) hge
    unfold halfEven
    rw [hfloor]
    split_ifs <;> first | omega | (exfalso; linarith)

/-- A whole number is rounded to itself. -/
theorem halfEven_natCast (n : ℕ) : halfEven n = n := by
  rw [halfEven, Nat.floor_natCast, sub_self, if_pos (by norm_num)]

/-- What is at most a whole number is rounded to at most this number. -/
theorem halfEven_le {n : ℕ} (h : y ≤ n) : halfEven y ≤ n := by
  calc
    halfEven y ≤ halfEven n := halfEven_mono h
    _ = n := halfEven_natCast n

/-- What is at least a whole number is rounded to at least this number. -/
theorem le_halfEven {n : ℕ} (h : n ≤ y) : n ≤ halfEven y := by
  calc
    n = halfEven n := (halfEven_natCast n).symm
    _ ≤ halfEven y := halfEven_mono h

/-- The nearest whole number is at most one half away. -/
theorem abs_halfEven_sub_le (hy : 0 ≤ y) : |(halfEven y : ℚ) - y| ≤ 1 / 2 := by
  have hfloor := Nat.floor_le hy
  have hceil := Nat.lt_floor_add_one y
  unfold halfEven
  split_ifs with hlow hhigh
  · rw [abs_le]
    constructor <;> linarith
  · push_cast
    rw [abs_le]
    constructor <;> linarith
  · have hhalf : y = ⌊y⌋₊ + 1 / 2 := by linarith
    rcases Nat.mod_two_eq_zero_or_one ⌊y⌋₊ with hmod | hmod <;> rw [hmod, abs_le] <;>
      push_cast <;> constructor <;> linarith

/-- A power of two is positive. -/
theorem two_zpow_pos (n : ℤ) : (0 : ℚ) < 2 ^ n :=
  zpow_pos two_pos n

/-- A number has at most 53 digits up to its last place. -/
theorem div_lastPlace_lt (x : ℚ) : x / 2 ^ lastPlace x < 2 ^ 53 := by
  rw [div_lt_iff₀ (two_zpow_pos _)]
  calc
    x < (2 : ℕ) ^ (Int.log 2 x + 1) := Int.lt_zpow_succ_log_self one_lt_two x
    _ ≤ 2 ^ (53 + lastPlace x) := by
      refine zpow_le_zpow_right₀ (by norm_num) ?_
      unfold lastPlace
      omega
    _ = 2 ^ 53 * 2 ^ lastPlace x := by
      rw [zpow_add₀ two_ne_zero]
      norm_cast

/-- A number has all 53 digits unless its last place is the smallest. -/
theorem le_div_lastPlace (hx : 0 < x) (h : -1074 < lastPlace x) :
    2 ^ 52 ≤ x / 2 ^ lastPlace x := by
  rw [le_div_iff₀ (two_zpow_pos _)]
  calc
    (2 : ℚ) ^ 52 * 2 ^ lastPlace x = 2 ^ (52 + lastPlace x) := by
      rw [zpow_add₀ two_ne_zero]
      norm_cast
    _ ≤ (2 : ℕ) ^ Int.log 2 x := by
      refine zpow_le_zpow_right₀ (by norm_num) ?_
      unfold lastPlace at h ⊢
      omega
    _ ≤ x := Int.zpow_log_le_self one_lt_two hx

/-- Zero is a double. -/
theorem nearest_zero : nearest 0 = 0 := by
  have h : halfEven 0 = 0 := halfEven_natCast 0
  rw [nearest, zero_div, h, Nat.cast_zero, zero_mul]

/-- A whole multiple of the last place is a double. -/
theorem nearest_eq_self {k : ℕ} (h : x / 2 ^ lastPlace x = k) : nearest x = x := by
  rw [nearest, h, halfEven_natCast, ← h, div_mul_cancel₀ _ (two_zpow_pos _).ne']

/-- A whole number with at most 53 digits is a double. -/
theorem nearest_natCast {n : ℕ} (hn : n < 2 ^ 53) : nearest n = n := by
  have hplace : lastPlace n ≤ 0 := by
    have hlog : Nat.log 2 n < 53 := Nat.log_lt_of_lt_pow' (by norm_num) hn
    rw [lastPlace, Int.log_natCast]
    omega
  obtain ⟨k, hk⟩ := Int.exists_eq_neg_ofNat hplace
  apply nearest_eq_self (k := n * 2 ^ k)
  rw [hk, zpow_neg, div_inv_eq_mul, zpow_natCast]
  push_cast
  rfl

/-- A power of two is a double. -/
theorem nearest_two_pow (k : ℕ) : nearest (2 ^ k) = 2 ^ k := by
  have hlog : Int.log 2 ((2 : ℚ) ^ k) = k := by
    exact_mod_cast Int.log_zpow (R := ℚ) one_lt_two k
  have hplace : lastPlace (2 ^ k) = k - 52 := by
    rw [lastPlace, hlog]
    omega
  apply nearest_eq_self (k := 2 ^ 52)
  rw [hplace, zpow_sub₀ two_ne_zero, zpow_natCast, div_div_eq_mul_div]
  push_cast
  field_simp

/-- The nearest double is not negative. -/
theorem nearest_nonneg (x : ℚ) : 0 ≤ nearest x :=
  mul_nonneg (Nat.cast_nonneg _) (two_zpow_pos _).le

/-- The nearest double is at most half a last place away. -/
theorem abs_nearest_sub_le (hx : 0 ≤ x) : |nearest x - x| ≤ 2 ^ (lastPlace x - 1) := by
  have hplace := two_zpow_pos (lastPlace x)
  have hquotient := abs_halfEven_sub_le (div_nonneg hx hplace.le)
  have hdifference : nearest x - x =
      (halfEven (x / 2 ^ lastPlace x) - x / 2 ^ lastPlace x) * 2 ^ lastPlace x := by
    rw [sub_mul, div_mul_cancel₀ _ hplace.ne', nearest]
  calc
    |nearest x - x| =
        |(halfEven (x / 2 ^ lastPlace x) : ℚ) - x / 2 ^ lastPlace x| * 2 ^ lastPlace x := by
      rw [hdifference, abs_mul, abs_of_pos hplace]
    _ ≤ 1 / 2 * 2 ^ lastPlace x := mul_le_mul_of_nonneg_right hquotient hplace.le
    _ = 2 ^ (lastPlace x - 1) := by
      rw [zpow_sub_one₀ two_ne_zero]
      ring

/-- As `abs_nearest_sub_le`, by the power of two above the number. -/
theorem abs_nearest_sub_le_of_lt {k : ℤ} (hk : -1021 ≤ k) (hx : 0 ≤ x) (h : x < 2 ^ k) :
    |nearest x - x| ≤ 2 ^ (k - 54) := by
  rcases hx.eq_or_lt with rfl | hpos
  · rw [nearest_zero, sub_zero, abs_zero]
    exact (two_zpow_pos _).le
  · have hlog : Int.log 2 x < k :=
      (Int.lt_zpow_iff_log_lt one_lt_two hpos).mp (by exact_mod_cast h)
    refine (abs_nearest_sub_le hx).trans (zpow_le_zpow_right₀ one_le_two ?_)
    unfold lastPlace
    omega

/-- As `abs_nearest_sub_le`, by the number itself, when its last place is not the smallest. -/
theorem abs_nearest_sub_le_div (hx : 2 ^ (-1022 : ℤ) ≤ x) : |nearest x - x| ≤ x / 2 ^ 53 := by
  have hpos : 0 < x := (two_zpow_pos _).trans_le hx
  have hlog : -1022 ≤ Int.log 2 x :=
    (Int.zpow_le_iff_le_log one_lt_two hpos).mp (by exact_mod_cast hx)
  have hplace : lastPlace x - 1 = Int.log 2 x - (53 : ℕ) := by
    unfold lastPlace
    omega
  calc
    |nearest x - x| ≤ 2 ^ (lastPlace x - 1) := abs_nearest_sub_le hpos.le
    _ = 2 ^ Int.log 2 x / 2 ^ 53 := by rw [hplace, zpow_sub₀ two_ne_zero, zpow_natCast]
    _ ≤ x / 2 ^ 53 :=
      div_le_div_of_nonneg_right (Int.zpow_log_le_self one_lt_two hpos) (by positivity)

/-- Less than half of the smallest place is rounded to nothing. -/
theorem nearest_eq_zero (hx : 0 ≤ x) (h : x < 2 ^ (-1075 : ℤ)) : nearest x = 0 := by
  rcases hx.eq_or_lt with rfl | hpos
  · exact nearest_zero
  have hplace : lastPlace x = -1074 := by
    have hlog : Int.log 2 x < -1075 :=
      (Int.lt_zpow_iff_log_lt one_lt_two hpos).mp (by exact_mod_cast h)
    unfold lastPlace
    omega
  have hhalf : x / 2 ^ (-1074 : ℤ) < 1 / 2 := by
    rw [div_lt_iff₀ (two_zpow_pos _)]
    calc
      x < 2 ^ (-1074 - 1 : ℤ) := h
      _ = 1 / 2 * 2 ^ (-1074 : ℤ) := by
        rw [zpow_sub_one₀ two_ne_zero, one_div, mul_comm]
  have hfloor : ⌊x / 2 ^ (-1074 : ℤ)⌋₊ = 0 := by
    rw [Nat.floor_eq_zero]
    linarith
  rw [nearest, hplace, halfEven, hfloor, Nat.cast_zero, sub_zero, if_pos hhalf, Nat.cast_zero,
    zero_mul]

/-- A larger number has no smaller nearest double. -/
theorem nearest_mono (hx : 0 ≤ x) (h : x ≤ y) : nearest x ≤ nearest y := by
  rcases hx.eq_or_lt with rfl | hx
  · rw [nearest_zero]
    exact nearest_nonneg y
  have hplace : lastPlace x ≤ lastPlace y := by
    have hlog := Int.log_mono_right (b := 2) hx h
    unfold lastPlace
    omega
  rcases hplace.eq_or_lt with heq | hlt
  · have hquotient : x / 2 ^ lastPlace x ≤ y / 2 ^ lastPlace y := by
      rw [heq]
      exact div_le_div_of_nonneg_right h (two_zpow_pos _).le
    unfold nearest
    rw [← heq] at hquotient ⊢
    exact mul_le_mul_of_nonneg_right (Nat.cast_le.mpr (halfEven_mono hquotient))
      (two_zpow_pos _).le
  · -- the two numbers are parted by a power of two, which both keep to when they are rounded
    have hupper : halfEven (x / 2 ^ lastPlace x) ≤ 2 ^ 53 :=
      halfEven_le (by exact_mod_cast (div_lastPlace_lt x).le)
    have hlower : 2 ^ 52 ≤ halfEven (y / 2 ^ lastPlace y) := by
      refine le_halfEven ?_
      have hmin : -1074 ≤ lastPlace x := le_max_right _ _
      exact_mod_cast le_div_lastPlace (hx.trans_le h) (hmin.trans_lt hlt)
    calc
      nearest x ≤ (2 : ℚ) ^ 53 * 2 ^ lastPlace x :=
        mul_le_mul_of_nonneg_right (by exact_mod_cast hupper) (two_zpow_pos _).le
      _ = 2 ^ 52 * 2 ^ (lastPlace x + 1) := by
        rw [zpow_add_one₀ two_ne_zero]
        ring
      _ ≤ 2 ^ 52 * 2 ^ lastPlace y :=
        mul_le_mul_of_nonneg_left (zpow_le_zpow_right₀ (by norm_num) hlt) (by positivity)
      _ ≤ nearest y :=
        mul_le_mul_of_nonneg_right (by exact_mod_cast hlower) (two_zpow_pos _).le

end Adjudicator.Number
