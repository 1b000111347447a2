import Adjudicator.Number.Shortest
import Adjudicator.Proofs.Number.Whole

/-!
# Shortest decimals of doubles

The search for a shortest decimal goes from a grid of powers of ten to finer ones until a decimal
lies in the interval of the double. Main statement: it ends with such a decimal, which is at most
half of the last place away from the double.
-/

namespace Adjudicator.Number

variable {x : Float} {d : Dyadic} {tie : Tie} {place : ℤ} {n k : ℕ}

/-! ## Grids -/

private theorem pow_toNat_div {b : ℕ} (hb : b ≠ 0) (a : ℤ) :
    ((Nat.pow b a.toNat : ℕ) : ℚ) = b ^ a * (Nat.pow b (-a).toNat : ℕ) := by
  have hb' : (b : ℚ) ≠ 0 := by exact_mod_cast hb
  change ((b ^ a.toNat : ℕ) : ℚ) = b ^ a * (b ^ (-a).toNat : ℕ)
  rw [Nat.cast_pow, Nat.cast_pow, ← zpow_natCast, ← zpow_natCast, ← zpow_add₀ hb']
  congr 1
  omega

/-- A quarter of the last place, as a numerator over the power of ten of a grid. -/
def Dyadic.quarter (d : Dyadic) (place : ℤ) : ℕ :=
  Nat.pow 2 (d.exponent - 2).toNat * Nat.pow 10 (-place).toNat

/-- The power of ten of a grid, as a denominator under a quarter of the last place. -/
def Dyadic.grid (d : Dyadic) (place : ℤ) : ℕ :=
  Nat.pow 2 (-(d.exponent - 2)).toNat * Nat.pow 10 place.toNat

/-- The denominator of a grid is positive. -/
theorem Dyadic.grid_pos (d : Dyadic) (place : ℤ) : 0 < d.grid place :=
  Nat.mul_pos (Nat.pow_pos (by decide)) (Nat.pow_pos (by decide))

/-- The quarter of the last place is positive. -/
theorem Dyadic.quarter_pos (d : Dyadic) (place : ℤ) : 0 < d.quarter place :=
  Nat.mul_pos (Nat.pow_pos (by decide)) (Nat.pow_pos (by decide))

private theorem quarter_mul (d : Dyadic) (place : ℤ) :
    (d.quarter place : ℚ) * 10 ^ place = 2 ^ (d.exponent - 2) * d.grid place := by
  have htwo := pow_toNat_div two_ne_zero (d.exponent - 2)
  have hten := pow_toNat_div (b := 10) (by decide) place
  rw [Dyadic.quarter, Dyadic.grid, Nat.cast_mul, Nat.cast_mul, htwo, hten]
  push_cast
  ring

private theorem interval_low (hm : 0 < d.mantissa) :
    4 * d.mantissa - 2 ≤ d.interval.low ∧ d.interval.low + 1 ≤ 4 * d.mantissa := by
  rw [Dyadic.interval]
  split <;> dsimp only <;> omega

/-- Digits on a grid that lie in the interval of a double are at most half a last place away. -/
private theorem abs_sub_le_of_holds (hm : 0 < d.mantissa)
    (h : d.interval.holds (d.quarter place) (d.grid place) n = true) :
    |(n : ℚ) * 10 ^ place - d.mantissa * 2 ^ d.exponent| ≤ 2 ^ (d.exponent - 1) := by
  have hbounds : (4 * d.mantissa - 2) * d.quarter place ≤ n * d.grid place ∧
      n * d.grid place ≤ (4 * d.mantissa + 2) * d.quarter place := by
    have hhigh : d.interval.high = 4 * d.mantissa + 2 := rfl
    have hends : d.interval.low * d.quarter place ≤ n * d.grid place ∧
        n * d.grid place ≤ d.interval.high * d.quarter place := by
      rw [Interval.holds] at h
      split at h <;> rw [Bool.and_eq_true, decide_eq_true_eq, decide_eq_true_eq] at h
      · exact h
      · exact ⟨h.1.le, h.2.le⟩
    rw [hhigh] at hends
    exact ⟨(Nat.mul_le_mul_right _ (interval_low hm).1).trans hends.1, hends.2⟩
  have hgrid : (0 : ℚ) < d.grid place := by exact_mod_cast d.grid_pos place
  have hten : (0 : ℚ) < 10 ^ place := zpow_pos (by norm_num) _
  have hquarter := quarter_mul d place
  have hlow : ((4 * d.mantissa - 2 : ℕ) : ℚ) * d.quarter place ≤ n * d.grid place := by
    exact_mod_cast hbounds.1
  have hhigh : (n : ℚ) * d.grid place ≤ (4 * d.mantissa + 2) * d.quarter place := by
    exact_mod_cast hbounds.2
  rw [Nat.cast_sub (by omega)] at hlow
  push_cast at hlow
  have hbelow : (4 * d.mantissa - 2) * 2 ^ (d.exponent - 2) ≤ (n : ℚ) * 10 ^ place := by
    refine le_of_mul_le_mul_right ?_ hgrid
    calc
      ((4 * d.mantissa - 2) * 2 ^ (d.exponent - 2) : ℚ) * d.grid place =
          (4 * d.mantissa - 2) * d.quarter place * 10 ^ place := by
        rw [mul_assoc, ← hquarter, mul_assoc]
      _ ≤ n * d.grid place * 10 ^ place := mul_le_mul_of_nonneg_right hlow hten.le
      _ = n * 10 ^ place * d.grid place := mul_right_comm _ _ _
  have habove : (n : ℚ) * 10 ^ place ≤ (4 * d.mantissa + 2) * 2 ^ (d.exponent - 2) := by
    refine le_of_mul_le_mul_right ?_ hgrid
    calc
      (n : ℚ) * 10 ^ place * d.grid place = n * d.grid place * 10 ^ place := mul_right_comm _ _ _
      _ ≤ (4 * d.mantissa + 2) * d.quarter place * 10 ^ place :=
        mul_le_mul_of_nonneg_right hhigh hten.le
      _ = (4 * d.mantissa + 2) * 2 ^ (d.exponent - 2) * d.grid place := by
        rw [mul_assoc, hquarter, mul_assoc]
  have hlast : (2 : ℚ) ^ d.exponent = 4 * 2 ^ (d.exponent - 2) := by
    rw [zpow_sub₀ two_ne_zero]
    norm_num
    ring
  have hhalf : (2 : ℚ) ^ (d.exponent - 1) = 2 * 2 ^ (d.exponent - 2) := by
    rw [zpow_sub₀ two_ne_zero, zpow_sub₀ two_ne_zero]
    norm_num
    ring
  rw [hlast, hhalf, abs_le]
  constructor <;> linarith

/-! ## Hits -/

/-- The point of the grid that is taken, written out with the middle of the interval. -/
theorem onGrid?_eq (tie : Tie) (d : Dyadic) (place : ℤ) :
    d.onGrid? tie place =
      let below := d.interval.mid * d.quarter place / d.grid place
      match d.interval.holds (d.quarter place) (d.grid place) below,
        d.interval.holds (d.quarter place) (d.grid place) (below + 1) with
      | false, false => none
      | true, false => some below
      | false, true => some (below + 1)
      | true, true => some (roundDiv tie (d.interval.mid * d.quarter place) (d.grid place)) :=
  rfl

private theorem roundDiv_eq_or (tie : Tie) (num den : ℕ) :
    roundDiv tie num den = num / den ∨ roundDiv tie num den = num / den + 1 := by
  unfold roundDiv
  cases tie <;> dsimp only <;> split_ifs <;> simp

/-- A hit lies in the interval of the double. -/
private theorem abs_sub_le_of_onGrid? (hm : 0 < d.mantissa) (h : d.onGrid? tie place = some n) :
    |(n : ℚ) * 10 ^ place - d.mantissa * 2 ^ d.exponent| ≤ 2 ^ (d.exponent - 1) := by
  refine abs_sub_le_of_holds hm ?_
  rw [onGrid?_eq] at h
  dsimp only at h
  split at h
  · cases h
  next hbelow _ =>
    obtain rfl := Option.some.inj h
    exact hbelow
  next _ habove =>
    obtain rfl := Option.some.inj h
    exact habove
  next hbelow habove =>
    obtain rfl := Option.some.inj h
    rcases roundDiv_eq_or tie (d.interval.mid * d.quarter place) (d.grid place) with heq | heq <;>
      rw [heq]
    · exact hbelow
    · exact habove

/-- A grid no coarser than a quarter of the last place has a hit. -/
private theorem isSome_onGrid? (tie : Tie) (hm : 0 < d.mantissa)
    (h : d.grid place ≤ d.quarter place) : (d.onGrid? tie place).isSome = true := by
  have hbelow : d.interval.holds (d.quarter place) (d.grid place)
      (d.interval.mid * d.quarter place / d.grid place) = true := by
    have hmid : d.interval.mid = 4 * d.mantissa := rfl
    have hhigh : d.interval.high = 4 * d.mantissa + 2 := rfl
    have hdown := Nat.div_mul_le_self (4 * d.mantissa * d.quarter place) (d.grid place)
    have hup := Nat.lt_div_mul_add (a := 4 * d.mantissa * d.quarter place) (d.grid_pos place)
    have hpos := d.quarter_pos place
    have hlow' := Nat.mul_le_mul_right (d.quarter place) (interval_low hm).2
    rw [Nat.add_mul, one_mul] at hlow'
    rw [Interval.holds, hmid, hhigh]
    have hhigh' : (4 * d.mantissa + 2) * d.quarter place =
      4 * d.mantissa * d.quarter place + 2 * d.quarter place := Nat.add_mul _ _ _
    split <;> rw [Bool.and_eq_true, decide_eq_true_eq, decide_eq_true_eq] <;> constructor <;> omega
  rw [onGrid?_eq]
  dsimp only
  rw [hbelow]
  split <;> first | rfl | contradiction

/-! ## The leading digit -/

private theorem pow_digitCount_le (fuel : ℕ) (hn : 0 < n) : 10 ^ digitCount fuel n ≤ 10 * n := by
  induction fuel generalizing n with
  | zero => rw [digitCount]; omega
  | succ fuel ih =>
    rw [digitCount]
    split
    · omega
    · have h := ih (n := n / 10) (by omega)
      rw [pow_succ]
      omega

private theorem lt_pow_digitCount {fuel : ℕ} (h : n < 10 ^ fuel) : n < 10 ^ digitCount fuel n := by
  induction fuel generalizing n with
  | zero => exact h
  | succ fuel ih =>
    rw [digitCount]
    split
    · omega
    · rw [pow_succ] at h ⊢
      have h' := ih (n := n / 10) (by omega)
      omega

private theorem digitCount_pos (fuel n : ℕ) : 0 < digitCount (fuel + 1) n := by
  rw [digitCount]
  split <;> omega

private theorem scaleDown_lt (hk : 0 < k) (h : (-d.exponent).toNat ≤ 3 * k) :
    d.scaleDown < 10 ^ k := by
  calc
    d.scaleDown ≤ 2 ^ (3 * k) := Nat.pow_le_pow_right two_pos h
    _ = (2 ^ 3) ^ k := Nat.pow_mul 2 3 k
    _ < 10 ^ k := Nat.pow_lt_pow_left (by decide) hk.ne'

/-- The leading digit is no larger than the number. -/
private theorem ten_zpow_leadingPlace_le (hm : 0 < d.mantissa) (he : -1074 ≤ d.exponent) :
    (10 : ℚ) ^ d.leadingPlace ≤ d.mantissa * 2 ^ d.exponent := by
  have hden := d.scaleDown_pos
  have hnum : 0 < d.mantissa * d.scaleUp := Nat.mul_pos hm (Nat.pow_pos (by decide))
  have hdenq : (0 : ℚ) < d.scaleDown := by exact_mod_cast hden
  rw [d.mantissa_mul_two_zpow, Dyadic.leadingPlace]
  dsimp only
  generalize d.mantissa * d.scaleUp = num at hnum
  have hsmall := scaleDown_lt (d := d) (k := 400) (by decide) (by omega)
  generalize d.scaleDown = den at hden hdenq hsmall
  split
  next hzero =>
    have hlt : num < den := (Nat.div_eq_zero_iff_lt hden).mp hzero
    have hinverse : den / num < 10 ^ digitCount 400 (den / num) :=
      lt_pow_digitCount ((Nat.div_le_self den num).trans_lt hsmall)
    split
    next =>
      have hle : den ≤ num * 10 ^ digitCount 400 (den / num) := by
        rw [mul_comm]
        exact (Nat.div_lt_iff_lt_mul hnum).mp hinverse |>.le
      rw [zpow_neg, zpow_natCast, inv_eq_one_div, div_le_div_iff₀ (by positivity) hdenq, one_mul]
      exact_mod_cast hle
    next hge =>
      have hpos : 0 < digitCount 400 (den / num) := digitCount_pos 399 _
      have hplaces : (1 : ℤ) - digitCount 400 (den / num) =
          -((digitCount 400 (den / num) - 1 : ℕ) : ℤ) := by omega
      rw [hplaces, zpow_neg, zpow_natCast, inv_eq_one_div, div_le_div_iff₀ (by positivity) hdenq,
        one_mul]
      exact_mod_cast not_lt.mp hge
  next hne =>
    have hcount := pow_digitCount_le 400 (Nat.pos_of_ne_zero hne)
    have hwhole : ((num / den : ℕ) : ℚ) ≤ num / den := Nat.cast_div_le
    have hcount' : (10 : ℚ) ^ digitCount 400 (num / den) ≤ 10 * (num / den : ℕ) := by
      exact_mod_cast hcount
    rw [zpow_sub_one₀ (by norm_num), zpow_natCast]
    linarith

/-! ## The search -/

private theorem exists_searchGrid {fuel : ℕ} (h : (d.onGrid? tie (place - fuel)).isSome = true) :
    ∃ p n, d.searchGrid tie fuel place = ⟨d.negative, n, p⟩ ∧ d.onGrid? tie p = some n := by
  induction fuel generalizing place with
  | zero =>
    rw [Nat.cast_zero, sub_zero] at h
    obtain ⟨n, hn⟩ := Option.isSome_iff_exists.mp h
    exact ⟨place, n, by rw [Dyadic.searchGrid, hn, Option.getD_some], hn⟩
  | succ fuel ih =>
    rw [Dyadic.searchGrid]
    cases hplace : d.onGrid? tie place with
    | some n => exact ⟨place, n, rfl, hplace⟩
    | none =>
      refine ih ?_
      rw [← h]
      congr 2
      push_cast
      ring

/-- The last grid of the search is fine enough. -/
private theorem grid_le_quarter (hm : 0 < d.mantissa) (hlt : d.mantissa < 2 ^ 53)
    (he : -1074 ≤ d.exponent) :
    d.grid (d.leadingPlace + 1 - (18 : ℕ)) ≤ d.quarter (d.leadingPlace + 1 - (18 : ℕ)) := by
  have hplace : d.leadingPlace + 1 - ((18 : ℕ) : ℤ) = d.leadingPlace - 17 := by
    push_cast
    ring
  rw [hplace]
  have hten : (0 : ℚ) < 10 ^ (d.leadingPlace - 17) := zpow_pos (by norm_num) _
  have hfine : (10 : ℚ) ^ (d.leadingPlace - 17) ≤ 2 ^ (d.exponent - 2) := by
    calc
      (10 : ℚ) ^ (d.leadingPlace - 17) = 10 ^ d.leadingPlace / 10 ^ 17 := by
        rw [zpow_sub₀ (by norm_num)]
        norm_cast
      _ ≤ 2 ^ 53 * 2 ^ d.exponent / 10 ^ 17 := by
        refine div_le_div_of_nonneg_right ((ten_zpow_leadingPlace_le hm he).trans ?_) (by norm_num)
        exact mul_le_mul_of_nonneg_right (by exact_mod_cast hlt.le) (two_zpow_pos _).le
      _ ≤ 2 ^ d.exponent / 2 ^ 2 := by
        rw [div_le_div_iff₀ (by norm_num) (by norm_num)]
        have hpos := two_zpow_pos d.exponent
        nlinarith
      _ = 2 ^ (d.exponent - 2) := by
        rw [zpow_sub₀ two_ne_zero]
        norm_cast
  have hquarter : (d.grid (d.leadingPlace - 17) : ℚ) ≤ d.quarter (d.leadingPlace - 17) := by
    refine le_of_mul_le_mul_right ?_ hten
    calc
      (d.grid (d.leadingPlace - 17) : ℚ) * 10 ^ (d.leadingPlace - 17) ≤
          d.grid (d.leadingPlace - 17) * 2 ^ (d.exponent - 2) :=
        mul_le_mul_of_nonneg_left hfine (Nat.cast_nonneg _)
      _ = d.quarter (d.leadingPlace - 17) * 10 ^ (d.leadingPlace - 17) := by
        rw [quarter_mul, mul_comm]
  exact_mod_cast hquarter

/-- The shortest decimal is at most half of the last place away. -/
theorem abs_shortest_sub_le (tie : Tie) (h : dyadic? x = some d) :
    (d.shortest tie).negative = d.negative ∧
      |((d.shortest tie).digits : ℚ) * 10 ^ (d.shortest tie).exponent -
        d.mantissa * 2 ^ d.exponent| ≤ 2 ^ (d.exponent - 1) := by
  obtain ⟨hlt, he, -, -⟩ := dyadic?_bounds h
  rw [Dyadic.shortest]
  split
  next hzero =>
    refine ⟨rfl, ?_⟩
    rw [hzero, Nat.cast_zero, zero_mul, zero_mul, sub_zero, abs_zero]
    exact (two_zpow_pos _).le
  next hne =>
    have hm := Nat.pos_of_ne_zero hne
    obtain ⟨p, n, hsearch, hhit⟩ :=
      exists_searchGrid (isSome_onGrid? tie hm (grid_le_quarter hm hlt he))
    rw [hsearch]
    exact ⟨rfl, abs_sub_le_of_onGrid? hm hhit⟩

end Adjudicator.Number
