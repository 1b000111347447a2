import Adjudicator.Proofs.Number.Finite
import Adjudicator.Proofs.Number.Quotient

/-!
# Whole doubles

Doubles are rounded to whole doubles and cut to whole numbers in exact arithmetic. Main statement:
the whole double is a double at most one half away, and a whole double is cut to its value as far
as the words of the result reach.
-/

namespace Adjudicator.Number

variable {x : Float} {d : Dyadic} {v : ℚ} {num den : ℕ}

/-! ## Quotients -/

/-- A quotient is rounded by at most one half. -/
theorem abs_roundDiv_sub_le (tie : Tie) (num : ℕ) (hden : 0 < den) :
    |(roundDiv tie num den : ℚ) - num / den| ≤ 1 / 2 := by
  have hpos : (0 : ℚ) < den := by exact_mod_cast hden
  have hsplit : (num : ℚ) = (num / den : ℕ) * den + (num % den : ℕ) := by
    exact_mod_cast (Nat.div_add_mod' num den).symm
  have hquotient : (num : ℚ) / den = (num / den : ℕ) + (num % den : ℕ) / den := by
    rw [div_eq_iff hpos.ne', add_mul, div_mul_cancel₀ _ hpos.ne', ← hsplit]
  have hrest : (0 : ℚ) ≤ (num % den : ℕ) / den := by positivity
  have hlt : ((num % den : ℕ) : ℚ) / den < 1 := by
    rw [div_lt_one hpos]
    exact_mod_cast Nat.mod_lt num hden
  have hbelow : 2 * (num % den) ≤ den → ((num % den : ℕ) : ℚ) / den ≤ 1 / 2 := by
    intro h
    rw [div_le_div_iff₀ hpos two_pos, mul_comm, one_mul]
    exact_mod_cast h
  have habove : den ≤ 2 * (num % den) → 1 / 2 ≤ ((num % den : ℕ) : ℚ) / den := by
    intro h
    rw [div_le_div_iff₀ two_pos hpos, one_mul, mul_comm]
    exact_mod_cast h
  have hdown : 2 * (num % den) ≤ den → |((num / den : ℕ) : ℚ) - num / den| ≤ 1 / 2 := by
    intro h
    rw [hquotient, abs_le]
    constructor <;> linarith [hbelow h]
  have hup : den ≤ 2 * (num % den) → |((num / den + 1 : ℕ) : ℚ) - num / den| ≤ 1 / 2 := by
    intro h
    rw [hquotient, abs_le]
    push_cast
    constructor <;> linarith [habove h]
  unfold roundDiv
  dsimp only
  split
  next hlow => exact hdown hlow.le
  next hlow =>
    split
    next hhigh => exact hup hhigh.le
    next hhigh =>
      cases tie with
      | away => exact hup (not_lt.mp hlow)
      | even =>
        dsimp only
        split
        · exact hdown (not_lt.mp hhigh)
        · exact hup (not_lt.mp hlow)

namespace Dyadic

/-- The denominator of a double is positive. -/
theorem scaleDown_pos (d : Dyadic) : 0 < d.scaleDown :=
  Nat.pow_pos (by decide)

/-- The size of a double as a quotient of whole numbers. -/
theorem mantissa_mul_two_zpow (d : Dyadic) :
    (d.mantissa : ℚ) * 2 ^ d.exponent = (d.mantissa * d.scaleUp : ℕ) / d.scaleDown := by
  have hup : (d.scaleUp : ℚ) = 2 ^ (d.exponent.toNat : ℤ) := by
    rw [zpow_natCast]
    exact_mod_cast rfl
  have hdown : (d.scaleDown : ℚ) = 2 ^ ((-d.exponent).toNat : ℤ) := by
    rw [zpow_natCast]
    exact_mod_cast rfl
  rw [Nat.cast_mul, mul_div_assoc, hup, hdown, ← zpow_sub₀ two_ne_zero]
  congr 2
  omega

/-- A whole number with the sign of a double, as a rational number. -/
theorem cast_signed (d : Dyadic) (n : ℕ) :
    (d.signed n : ℚ) = (if d.negative then -1 else 1) * n := by
  rw [signed]
  split
  · rw [Int.cast_neg, Int.cast_natCast, neg_one_mul]
  · rw [Int.cast_natCast, one_mul]

/-- A sign does not change the absolute value. -/
theorem abs_sign_mul (d : Dyadic) (q : ℚ) : |(if d.negative then (-1 : ℚ) else 1) * q| = |q| := by
  split
  · rw [neg_one_mul, abs_neg]
  · rw [one_mul]

/-- The nearest whole number is at most one half away. -/
theorem abs_round_sub_le (d : Dyadic) : |(d.round : ℚ) - d.value| ≤ 1 / 2 := by
  rw [round, cast_signed, value, mantissa_mul_two_zpow, ← mul_sub, abs_sign_mul]
  exact abs_roundDiv_sub_le .away _ d.scaleDown_pos

end Dyadic

/-! ## Whole numbers -/

/-- Whole numbers below two to the power of 53 are doubles. -/
theorem rounded_intCast {n : ℤ} (hn : |n| < 2 ^ 53) : rounded n = n := by
  have hnat : n.natAbs < 2 ^ 53 := by
    rw [Int.abs_eq_natAbs] at hn
    exact_mod_cast hn
  have hnearest := nearest_natCast hnat
  obtain ⟨m, rfl | rfl⟩ := n.eq_nat_or_neg
  · rw [Int.natAbs_natCast] at hnearest
    rw [Int.cast_natCast, rounded_of_nonneg (Nat.cast_nonneg m), hnearest]
  · rw [Int.natAbs_neg, Int.natAbs_natCast] at hnearest
    rw [Int.cast_neg, Int.cast_natCast, rounded_neg, rounded_of_nonneg (Nat.cast_nonneg m),
      hnearest]

private theorem value?_ofInt_natCast {n : ℕ} (h : nearest n < 2 ^ 1024) :
    value? (ofInt n) = some (rounded n) := by
  rw [rounded_of_nonneg (Nat.cast_nonneg n), value?_eq_some_iff]
  exact (unpack_ofInt_of_lt h).stands

/-- A whole number becomes the nearest double. -/
theorem value?_ofInt {n : ℤ} (h : |rounded n| < 2 ^ 1024) :
    value? (ofInt n) = some (rounded n) := by
  rw [abs_rounded] at h
  cases n with
  | ofNat m =>
    rw [Int.ofNat_eq_natCast, Int.cast_natCast] at h ⊢
    rw [Nat.abs_cast] at h
    exact value?_ofInt_natCast h
  | negSucc m =>
    have hcast : ((Int.negSucc m : ℤ) : ℚ) = -((m + 1 : ℕ) : ℚ) := by
      rw [Int.negSucc_eq]
      push_cast
      ring
    rw [hcast, abs_neg, Nat.abs_cast] at h
    rw [hcast, rounded_neg]
    exact value?_neg (value?_ofInt_natCast h)

/-- A double is either whole or has its value below half of the largest mantissa. -/
private theorem round_eq_or_lt (h : dyadic? x = some d) :
    (d.round : ℚ) = d.value ∨ |d.round| < 2 ^ 53 := by
  obtain ⟨hmantissa, -, -, -⟩ := dyadic?_bounds h
  rcases le_or_gt 0 d.exponent with hexponent | hexponent
  · left
    have hdown : d.scaleDown = 1 := by
      have hzero : (-d.exponent).toNat = 0 := by omega
      rw [Dyadic.scaleDown, hzero]
    have hround : roundDiv .away (d.mantissa * d.scaleUp) 1 = d.mantissa * d.scaleUp := by
      simp only [roundDiv, Nat.mod_one, Nat.div_one, Nat.mul_zero, Nat.zero_lt_one, if_true]
    rw [Dyadic.round, hdown, hround, Dyadic.cast_signed, Dyadic.value, d.mantissa_mul_two_zpow,
      hdown, Nat.cast_one, div_one]
  · right
    have hvalue : |d.value| < 2 ^ 52 := by
      rw [abs_dyadic_value]
      calc
        (d.mantissa : ℚ) * 2 ^ d.exponent < 2 ^ 53 * 2 ^ d.exponent :=
          mul_lt_mul_of_pos_right (by exact_mod_cast hmantissa) (two_zpow_pos _)
        _ ≤ 2 ^ 53 * 2 ^ (-1 : ℤ) :=
          mul_le_mul_of_nonneg_left (zpow_le_zpow_right₀ one_le_two (by omega)) (by positivity)
        _ = 2 ^ 52 := by norm_num
    have hround := d.abs_round_sub_le
    have hsum : |(d.round : ℚ)| < 2 ^ 53 := by
      rw [abs_lt] at hvalue ⊢
      rw [abs_le] at hround
      constructor <;> norm_num at * <;> linarith
    exact_mod_cast hsum

/-- Rounding to a whole number is exact. -/
theorem value?_round (h : dyadic? x = some d) : value? (round x) = some (d.round : ℚ) := by
  have hvalue : value? x = some d.value := by rw [value?, h, Option.map_some]
  rw [round, h]
  dsimp only
  split
  next hzero =>
    rw [hzero, Int.cast_zero]
    cases d.negative <;> decide +kernel
  next hne =>
    rcases round_eq_or_lt h with heq | hlt
    · have hrounded : rounded d.round = d.round := by
        rw [heq]
        exact (value?_eq_some_iff.mp hvalue).rounded_eq
      have hbound := value?_ofInt (n := d.round) (by rw [hrounded, heq]; exact abs_value_lt hvalue)
      rwa [hrounded] at hbound
    · have hrounded := rounded_intCast hlt
      have hsmall : |(d.round : ℚ)| < 2 ^ 1024 := by
        calc
          |(d.round : ℚ)| < 2 ^ 53 := by exact_mod_cast hlt
          _ ≤ 2 ^ 1024 := pow_le_pow_right₀ one_le_two (by decide)
      have hbound := value?_ofInt (n := d.round) (by rw [hrounded]; exact hsmall)
      rwa [hrounded] at hbound

/-- Rounding a finite double gives a whole number at most one half away. -/
theorem exists_value?_round (h : value? x = some v) :
    ∃ n : ℤ, value? (round x) = some (n : ℚ) ∧ |(n : ℚ) - v| ≤ 1 / 2 := by
  obtain ⟨d, hd, rfl⟩ := Option.map_eq_some_iff.mp h
  exact ⟨d.round, value?_round hd, d.abs_round_sub_le⟩

private theorem scaled_eq_iff {n : ℤ} (d : Dyadic) :
    |d.value| = |(n : ℚ)| ↔ d.mantissa * d.scaleUp = n.natAbs * d.scaleDown := by
  have hdown : (d.scaleDown : ℚ) ≠ 0 := by exact_mod_cast d.scaleDown_pos.ne'
  rw [abs_dyadic_value, d.mantissa_mul_two_zpow, div_eq_iff hdown, ← Int.cast_abs,
    Int.abs_eq_natAbs, Int.cast_natCast]
  exact_mod_cast Iff.rfl

/-- A double is whole when its value is. -/
theorem isWhole_iff (h : value? x = some v) : isWhole x = true ↔ ∃ n : ℤ, v = n := by
  obtain ⟨d, hd, rfl⟩ := Option.map_eq_some_iff.mp h
  rw [isWhole, hd]
  dsimp only
  rw [decide_eq_true_eq]
  constructor
  · intro hmod
    obtain ⟨k, hk⟩ := Nat.dvd_of_mod_eq_zero hmod
    have habs : |d.value| = |((k : ℤ) : ℚ)| := by
      rw [scaled_eq_iff, Int.natAbs_natCast, hk, Nat.mul_comm]
    rcases abs_eq_abs.mp habs with hvalue | hvalue
    · exact ⟨k, hvalue⟩
    · exact ⟨-k, by rw [hvalue, Int.cast_neg]⟩
  · rintro ⟨n, hn⟩
    have hscaled := (scaled_eq_iff (n := n) d).mp (by rw [hn])
    rw [hscaled, Nat.mul_mod_left]

/-- A whole double is cut to its value. -/
private theorem truncate_eq {n : ℤ} (h : d.value = n) : d.truncate = n := by
  have hscaled := (scaled_eq_iff (n := n) d).mp (by rw [h])
  have hnonneg : (0 : ℚ) ≤ d.mantissa * 2 ^ d.exponent :=
    mul_nonneg (Nat.cast_nonneg _) (two_zpow_pos _).le
  rw [Dyadic.truncate, hscaled, Nat.mul_div_cancel _ d.scaleDown_pos, Dyadic.signed]
  rw [Dyadic.value] at h
  split
  next hneg =>
    rw [if_pos hneg, neg_one_mul] at h
    have hle : (n : ℚ) ≤ 0 := by
      rw [← h]
      exact neg_nonpos.mpr hnonneg
    have hle' : n ≤ 0 := by exact_mod_cast hle
    omega
  next hpos =>
    rw [if_neg hpos, one_mul] at h
    have hle : (0 : ℚ) ≤ n := by
      rw [← h]
      exact hnonneg
    have hle' : 0 ≤ n := by exact_mod_cast hle
    omega

/-- A whole double is cut to a word by its value alone. -/
theorem toSigned64_eq {n : ℤ} (h : value? x = some (n : ℚ)) :
    toSigned64 x = max (-2 ^ 63) (min (2 ^ 63 - 1) n) := by
  obtain ⟨d, hd, hvalue⟩ := Option.map_eq_some_iff.mp h
  rw [toSigned64, truncateWithin, hd]
  dsimp only
  rw [truncate_eq hvalue]
  rfl

/-! ## Literals -/

/-- The literal for zero stands for it. -/
theorem value?_zero : value? 0.0 = some 0 := by
  decide +kernel

/-- The literal for one stands for it. -/
theorem value?_one : value? 1.0 = some 1 := by
  decide +kernel

/-- The literal for a hundred stands for it. -/
theorem value?_hundred : value? 100.0 = some 100 := by
  decide +kernel

end Adjudicator.Number
