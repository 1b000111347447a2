import Adjudicator.Number.Dyadic
import Adjudicator.Proofs.Number.Nearest
import Adjudicator.Settings.Retry

/-!
# Waiting times

Waiting times are computed with doubles and cut to whole milliseconds. In exact arithmetic they are
the integer part of the growing time up to its bound, and up to the limits of exact doubles the
computed times are the same. Main statement: up to the repetition where the doublings leave the 32
bits with a sign they are counted in, no waiting time is shorter than one before it and none is
longer than the bound. At the next repetition an exponential time falls to nothing.
-/

namespace Adjudicator

/-! ## Whole numbers near doubles -/

namespace Number

/-- Rounding a quotient of whole numbers is rounding its value. -/
theorem roundDiv_even (num : ℕ) {den : ℕ} (hden : 0 < den) :
    roundDiv .even num den = halfEven (num / den) := by
  have hpos : (0 : ℚ) < den := by exact_mod_cast hden
  have hfloor : ⌊(num : ℚ) / den⌋₊ = num / den := Nat.floor_div_eq_div num den
  have hrest : (num : ℚ) / den - (num / den : ℕ) = (num % den : ℕ) / den := by
    have hsplit : (num : ℚ) = (num / den : ℕ) * den + (num % den : ℕ) := by
      exact_mod_cast (Nat.div_add_mod' num den).symm
    rw [sub_eq_iff_eq_add, div_eq_iff hpos.ne', add_mul, div_mul_cancel₀ _ hpos.ne', add_comm]
    exact hsplit
  have hlow : ((num % den : ℕ) : ℚ) / den < 1 / 2 ↔ 2 * (num % den) < den := by
    rw [div_lt_div_iff₀ hpos two_pos, mul_comm, one_mul]
    exact_mod_cast Iff.rfl
  have hhigh : (1 : ℚ) / 2 < (num % den : ℕ) / den ↔ den < 2 * (num % den) := by
    rw [div_lt_div_iff₀ two_pos hpos, mul_comm _ (2 : ℚ), one_mul]
    exact_mod_cast Iff.rfl
  simp only [roundDiv, halfEven, hfloor, hrest, hlow, hhigh]
  split_ifs <;> omega

/-- The whole number near a natural number is its nearest double. -/
theorem cast_nearestDouble (n : ℕ) : (nearestDouble n : ℚ) = nearest n := by
  unfold nearestDouble
  split
  next h => exact (nearest_natCast h).symm
  next h =>
    have hne : n ≠ 0 := by
      rintro rfl
      exact h (by decide)
    have hlog : 53 ≤ Nat.log2 n := (Nat.le_log2 hne).mpr (not_lt.mp h)
    have hplace : lastPlace n = (Nat.log2 n - 52 : ℕ) := by
      rw [lastPlace, Int.log_natCast, ← Nat.log2_eq_log_two]
      omega
    have hunit : ((2 ^ (Nat.log2 n - 52) : ℕ) : ℚ) = 2 ^ lastPlace n := by
      rw [hplace, zpow_natCast]
      push_cast
      rfl
    have hpos : 0 < 2 ^ (Nat.log2 n - 52) := Nat.two_pow_pos _
    dsimp only [Nat.pow_eq]
    rw [roundDiv_even n hpos, Nat.cast_mul, hunit, nearest]

/-- Rounding to a double keeps the order. -/
theorem nearestDouble_mono {m n : ℕ} (h : m ≤ n) : nearestDouble m ≤ nearestDouble n := by
  have hcast := nearest_mono (Nat.cast_nonneg m) (Nat.cast_le (α := ℚ).mpr h)
  rw [← cast_nearestDouble, ← cast_nearestDouble] at hcast
  exact_mod_cast hcast

/-- Whole numbers below two to the power of 53 are doubles. -/
theorem nearestDouble_eq_self {n : ℕ} (h : n < 2 ^ 53) : nearestDouble n = n :=
  if_pos h

/-- Numbers from there on are not rounded below it. -/
theorem le_nearestDouble {n : ℕ} (h : 2 ^ 53 ≤ n) : 2 ^ 53 ≤ nearestDouble n := by
  have hpower : nearestDouble (2 ^ 53) = 2 ^ 53 := by decide
  calc
    2 ^ 53 = nearestDouble (2 ^ 53) := hpower.symm
    _ ≤ nearestDouble n := nearestDouble_mono h

end Number

namespace Retry

open Number

variable (r : Retry) {a b attempt : ℕ}

/-! ## Exact arithmetic -/

/-- How often the first waiting time is waited before a repetition. -/
def factor (attempt : ℕ) : ℚ :=
  match r.backoff with
  | .constant => 1
  | .linear => attempt
  | .exponential => 2 ^ doublings attempt

/-- The waiting time before a repetition in exact arithmetic: the integer part of the growing time
up to its bound. -/
def exactDelay (attempt : ℕ) : ℕ :=
  ⌊min (r.base * r.factor attempt) (r.bound : ℚ)⌋₊

/-- The doublings are those before a repetition as long as 32 bits with a sign hold them. -/
theorem doublings_eq (h : attempt ≤ 2 ^ 31) : doublings attempt = (attempt - 1 : ℕ) := by
  apply Int.bmod_eq_of_le
  · omega
  · have hhalf : ((Nat.pow 2 32 : ℕ) + 1 : ℤ) / 2 = 2 ^ 31 := by decide
    rw [hhalf]
    omega

/-- Up to the attempt with the number two to the power of 31 the factor grows. -/
theorem factor_mono (hab : a ≤ b) (hb : b ≤ 2 ^ 31) : r.factor a ≤ r.factor b := by
  unfold factor
  cases r.backoff with
  | constant => exact le_rfl
  | linear => exact Nat.cast_le.mpr hab
  | exponential =>
    dsimp only
    rw [doublings_eq (hab.trans hb), doublings_eq hb]
    apply zpow_le_zpow_right₀ one_le_two
    omega

/-- Up to that attempt the exact waiting time grows. -/
theorem exactDelay_mono (hab : a ≤ b) (hb : b ≤ 2 ^ 31) : r.exactDelay a ≤ r.exactDelay b := by
  unfold exactDelay
  apply Nat.floor_mono
  apply min_le_min_right
  exact mul_le_mul_of_nonneg_left (r.factor_mono hab hb) (Nat.cast_nonneg _)

/-- The exact waiting time is the integer part of the growing time, or the bound if that is less. -/
theorem exactDelay_eq_min (attempt : ℕ) :
    r.exactDelay attempt = min ⌊r.base * r.factor attempt⌋₊ r.bound := by
  rw [exactDelay, Nat.floor_mono.map_min, Nat.floor_natCast]

/-- The exact waiting time is within the bound. -/
theorem exactDelay_le_bound (attempt : ℕ) : r.exactDelay attempt ≤ r.bound := by
  rw [exactDelay_eq_min]
  exact min_le_right _ _

/-- With exponential backoff the time is doubled for each attempt, up to the bound. -/
theorem exactDelay_exponential (h : r.backoff = .exponential) (hattempt : attempt ≤ 2 ^ 31) :
    r.exactDelay attempt = ⌊min (r.base * 2 ^ (attempt - 1) : ℚ) r.bound⌋₊ := by
  have hfactor : r.factor attempt = 2 ^ (attempt - 1) := by
    rw [factor, h]
    dsimp only
    rw [doublings_eq hattempt, zpow_natCast]
  rw [exactDelay, hfactor]

/-! ## Computed times -/

/-- A time that is doubled a number of times that is not negative. -/
theorem doubled?_natCast (time n : ℕ) :
    doubled? time n = if 1024 ≤ n then none else some (time * 2 ^ n) := by
  have hneg : ¬(n : ℤ) < 0 := by omega
  rw [doubled?, if_neg hneg, tooManyDoublings, Int.toNat_natCast]
  norm_cast

/-- A growing time is no shorter than one before it, where a time that is unbounded is longer than
all others. -/
theorem growing?_mono (hab : a ≤ b) (hb : b ≤ 2 ^ 31) {later : ℕ}
    (h : r.growing? b = some later) : ∃ earlier ≤ later, r.growing? a = some earlier := by
  unfold growing? at *
  cases hbackoff : r.backoff with
  | constant =>
    rw [hbackoff] at h
    exact ⟨later, le_rfl, h⟩
  | linear =>
    rw [hbackoff] at h
    obtain rfl := Option.some.inj h
    exact ⟨_, nearestDouble_mono (Nat.mul_le_mul_left _ hab), rfl⟩
  | exponential =>
    rw [hbackoff] at h
    dsimp only at h ⊢
    rw [doublings_eq hb, doubled?_natCast] at h
    rw [doublings_eq (hab.trans hb), doubled?_natCast]
    split at h
    · cases h
    · next hfew =>
      obtain rfl := Option.some.inj h
      rw [if_neg (by omega)]
      exact ⟨_, Nat.mul_le_mul_left _ (Nat.pow_le_pow_right two_pos (by omega)), rfl⟩

/-- The waiting time is within the bound as a double. -/
theorem delay_le_nearestDouble_bound (attempt : ℕ) :
    r.delay attempt ≤ nearestDouble r.bound := by
  unfold delay
  dsimp only
  split <;> omega

/-- Up to the attempt with the number two to the power of 31 the waiting time grows. -/
theorem delay_mono (hab : a ≤ b) (hb : b ≤ 2 ^ 31) : r.delay a ≤ r.delay b := by
  unfold delay
  dsimp only
  cases hlater : r.growing? b with
  | none =>
    dsimp only
    split <;> omega
  | some later =>
    obtain ⟨earlier, hle, hearlier⟩ := r.growing?_mono hab hb hlater
    rw [hearlier]
    dsimp only
    omega

/-! ## Computed and exact times -/

variable {r}

/-- Below the limit of exact doubles the bound is kept as it is. -/
private theorem min_longest_bound (hbound : r.bound < 2 ^ 53) :
    min longest (nearestDouble r.bound) = r.bound := by
  have hsize : longest = 2 ^ 64 - 1 := rfl
  rw [nearestDouble_eq_self hbound, min_eq_right (by omega)]

/-- As long as the growing time can be counted, the waiting time is this time up to the bound. -/
theorem delay_of_growing? {time : ℕ} (hbound : r.bound < 2 ^ 53)
    (h : r.growing? attempt = some time) : r.delay attempt = min time r.bound := by
  rw [delay, h, min_longest_bound hbound]

/-- When it can no longer be counted, the waiting time is the bound. -/
theorem delay_of_growing?_none (hbound : r.bound < 2 ^ 53) (h : r.growing? attempt = none) :
    r.delay attempt = r.bound := by
  rw [delay, h, min_longest_bound hbound]

/-- Doubling is exact, and halving is cut to the integer part. -/
theorem doubled?_eq_floor {time : ℕ} {times : ℤ} (h : times < 1024) :
    doubled? time times = some ⌊(time * 2 ^ times : ℚ)⌋₊ := by
  rcases lt_or_ge times 0 with hneg | hpos
  · obtain ⟨n, rfl⟩ := Int.exists_eq_neg_ofNat hneg.le
    have hcast : ((2 ^ n : ℕ) : ℚ) = 2 ^ n := by push_cast; rfl
    rw [doubled?, if_pos hneg, Int.natAbs_neg, Int.natAbs_natCast, Nat.shiftRight_eq_div_pow,
      zpow_neg, zpow_natCast, ← div_eq_mul_inv, ← hcast, Nat.floor_div_eq_div]
  · lift times to ℕ using hpos
    have hcast : (time * 2 ^ times : ℚ) = (time * 2 ^ times : ℕ) := by push_cast; rfl
    rw [doubled?_natCast, if_neg (by omega), zpow_natCast, hcast, Nat.floor_natCast]

/-- Where doubles are exact, a computed time is the exact one; only nothing that is doubled too
often counts as unbounded. -/
theorem delay_eq_exactDelay (hbase : r.base < 2 ^ 53) (hbound : r.bound < 2 ^ 53)
    (h : r.backoff = .exponential → r.base = 0 → doublings attempt < 1024) :
    r.delay attempt = r.exactDelay attempt := by
  rw [exactDelay_eq_min, factor]
  cases hbackoff : r.backoff with
  | constant =>
    have hgrowing : r.growing? attempt = some r.base := by
      rw [growing?, hbackoff, nearestDouble_eq_self hbase]
    dsimp only
    rw [delay_of_growing? hbound hgrowing, mul_one, Nat.floor_natCast]
  | linear =>
    have hgrowing : r.growing? attempt = some (nearestDouble (r.base * attempt)) := by
      rw [growing?, hbackoff, nearestDouble_eq_self hbase]
    dsimp only
    rw [delay_of_growing? hbound hgrowing, ← Nat.cast_mul, Nat.floor_natCast]
    rcases lt_or_ge (r.base * attempt) (2 ^ 53) with hlow | hhigh
    · rw [nearestDouble_eq_self hlow]
    · have hrounded := le_nearestDouble hhigh
      omega
  | exponential =>
    have hgrowing : r.growing? attempt = doubled? r.base (doublings attempt) := by
      rw [growing?, hbackoff, nearestDouble_eq_self hbase]
    dsimp only
    rcases lt_or_ge (doublings attempt) 1024 with hfew | hmany
    · rw [doubled?_eq_floor hfew] at hgrowing
      rw [delay_of_growing? hbound hgrowing]
    · have hone : 1 ≤ r.base := by
        by_contra hzero
        have hfew := h hbackoff (by omega)
        omega
      lift doublings attempt to ℕ using (by omega) with times
      rw [doubled?_natCast, if_pos (by omega)] at hgrowing
      have hlong : r.bound ≤ ⌊(r.base * 2 ^ (times : ℤ) : ℚ)⌋₊ := by
        have hpower : 2 ^ 53 ≤ 2 ^ times := Nat.pow_le_pow_right two_pos (by omega)
        apply Nat.le_floor
        rw [zpow_natCast]
        exact_mod_cast (show r.bound ≤ r.base * 2 ^ times by nlinarith)
      rw [delay_of_growing?_none hbound hgrowing, min_eq_right hlong]

/-- Up to the repetition where the doublings leave their 32 bits, waiting times never shrink and
keep to their bound, in exact arithmetic and as they are computed, and both are the same within the
limits of exact doubles. -/
theorem delays_grow_to_bound (r : Retry) {a b : ℕ} (hab : a ≤ b) (hb : b ≤ 2 ^ 31) :
    (r.exactDelay a ≤ r.exactDelay b ∧ r.exactDelay b ≤ r.bound ∧
      (r.backoff = .exponential →
        r.exactDelay a = ⌊min (r.base * 2 ^ (a - 1) : ℚ) r.bound⌋₊)) ∧
    (r.delay a ≤ r.delay b ∧ r.delay b ≤ nearestDouble r.bound) ∧
    (r.base < 2 ^ 53 → r.bound < 2 ^ 53 →
      (r.backoff = .exponential → r.base = 0 → a ≤ 1024) → r.delay a = r.exactDelay a) := by
  refine ⟨⟨r.exactDelay_mono hab hb, r.exactDelay_le_bound b, ?_⟩,
    ⟨r.delay_mono hab hb, r.delay_le_nearestDouble_bound b⟩, ?_⟩
  · intro hbackoff
    exact r.exactDelay_exponential hbackoff (hab.trans hb)
  · intro hbase hbound hzero
    apply delay_eq_exactDelay hbase hbound
    intro hbackoff hnothing
    have hfew := hzero hbackoff hnothing
    rw [doublings_eq (hab.trans hb)]
    omega

/-- The usual waiting times, from the second repetition on to the last one that is counted. -/
theorem usual_delays_grow :
    (2 ≤ 2 ^ 31 ∧ 2 ^ 31 ≤ 2 ^ 31) ∧ exactDelay {} 2 ≤ exactDelay {} (2 ^ 31) ∧
      exactDelay {} 2 = 2000 ∧ exactDelay {} (2 ^ 31) ≤ 30000 := by
  obtain ⟨⟨hgrow, hbound, -⟩, -, hexact⟩ :=
    delays_grow_to_bound {} (a := 2) (b := 2 ^ 31) (by decide) (by decide)
  refine ⟨by decide, hgrow, ?_, hbound⟩
  rw [← hexact (by decide) (by decide) (by decide)]
  decide

/-- At the next repetition the usual waiting time falls from its bound to nothing. -/
theorem delay_shrinks :
    (¬∀ (r : Retry) (a b : ℕ), 1 ≤ a → a ≤ b → b < 2 ^ 32 → r.exactDelay a ≤ r.exactDelay b) ∧
    ¬∀ (r : Retry) (a b : ℕ), 1 ≤ a → a ≤ b → b < 2 ^ 32 → r.delay a ≤ r.delay b := by
  have hlast : delay {} (2 ^ 31) = 30000 := by decide
  have hnext : delay {} (2 ^ 31 + 1) = 0 := by decide
  have hexact (attempt : ℕ) : exactDelay {} attempt = delay {} attempt :=
    (delay_eq_exactDelay (by decide) (by decide) fun _ hzero => absurd hzero (by decide)).symm
  constructor
  · intro h
    have hle := h {} (2 ^ 31) (2 ^ 31 + 1) (by decide) (by decide) (by decide)
    rw [hexact, hexact, hlast, hnext] at hle
    exact absurd hle (by decide)
  · intro h
    have hle := h {} (2 ^ 31) (2 ^ 31 + 1) (by decide) (by decide) (by decide)
    rw [hlast, hnext] at hle
    exact absurd hle (by decide)

end Retry

end Adjudicator
