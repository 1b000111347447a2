import Adjudicator.Number.Reading
import Adjudicator.Proofs.Number.Bits
import Adjudicator.Proofs.Number.Quotient

/-!
# Doubles of any size

A number without a sign that has no more digits than a double is a double, or infinity when it is
too large. Main statement: a decimal is read as the double nearest to it, whatever its size is.
-/

namespace Adjudicator.Number

open Float.Model Float.Model.UnpackedFloat

/-- A double is this number, or infinity when the number is too large. -/
inductive Unsigned (x : Float) (v : ℚ) : Prop
  | finite (hv : v < 2 ^ 1024) (h : Denotes x.toModel.unpack v)
  | infinite (hv : 2 ^ 1024 ≤ v) (h : x.toModel.unpack = .infinity .positive)

variable {x y : Float} {f : UnpackedFloat} {v w : ℚ} {n k : ℕ}

/-! ## Finite and infinite doubles -/

/-- A packed double is the number that it denotes. -/
theorem Unsigned.of_pack (hf : Denotes f v) (hx : x.toModel = Float.Model.pack f) :
    Unsigned x v := by
  have hunpack := unpack_pack hf
  rw [← hx] at hunpack
  split at hunpack
  next hv =>
    rw [← hunpack] at hf
    exact .finite hv hf
  next hv => exact .infinite (not_lt.mp hv) hunpack

/-- A double that stands for a positive number is this number. -/
theorem Unsigned.of_value? (h : Number.value? x = some v) (hv : 0 < v) : Unsigned x v :=
  .finite ((le_abs_self v).trans_lt (abs_value_lt h)) ((value?_eq_some_iff.mp h).denotes hv)

/-- In range the double denotes the number. -/
theorem Unsigned.denotes (h : Unsigned x v) (hv : v < 2 ^ 1024) : Denotes x.toModel.unpack v := by
  cases h with
  | finite _ h => exact h
  | infinite hv' _ => exact absurd hv (not_lt.mpr hv')

/-- Out of range the double is infinity. -/
theorem Unsigned.infinity (h : Unsigned x v) (hv : 2 ^ 1024 ≤ v) :
    x.toModel.unpack = .infinity .positive := by
  cases h with
  | finite hv' _ => exact absurd hv' (not_lt.mpr hv)
  | infinite _ h => exact h

/-- The number is not negative. -/
theorem Unsigned.nonneg (h : Unsigned x v) : 0 ≤ v := by
  cases h with
  | finite _ h => exact h.nonneg
  | infinite hv _ => exact (by positivity : (0 : ℚ) ≤ 2 ^ 1024).trans hv

/-- In range the number is that of the double. -/
theorem Unsigned.value? (h : Unsigned x v) (hv : v < 2 ^ 1024) : value? x = some v :=
  value?_eq_some_iff.mpr (h.denotes hv).stands

/-- Out of range the double has no number. -/
theorem Unsigned.value?_eq_none (h : Unsigned x v) (hv : 2 ^ 1024 ≤ v) :
    Number.value? x = none := by
  by_contra hsome
  obtain ⟨u, hu⟩ := Option.ne_none_iff_exists'.mp hsome
  have hfinite := (value?_eq_some_iff.mp hu).isFinite
  rw [h.infinity hv] at hfinite
  cases hfinite

private theorem signBit_of_denotes (h : Denotes f v) : signBit f = .positive := by
  cases h <;> rfl

/-- The double has no sign. -/
theorem Unsigned.isNegative (h : Unsigned x v) : isNegative x = false := by
  have hsign : signBit x.toModel.unpack = .positive := by
    cases h with
    | finite _ h => exact signBit_of_denotes h
    | infinite _ h =>
      rw [h]
      rfl
  rw [← isNegative_of_unpack] at hsign
  cases hbit : Number.isNegative x with
  | false => rfl
  | true =>
    rw [hbit] at hsign
    cases hsign

/-- The double is a number. -/
theorem Unsigned.isNaN (h : Unsigned x v) : isNaN x = false := by
  rw [Bool.eq_false_iff, Ne, isNaN_iff]
  intro hnan
  cases h with
  | finite _ h =>
    have hfinite := h.stands.isFinite
    rw [hnan] at hfinite
    cases hfinite
  | infinite _ h =>
    rw [hnan] at h
    cases h

/-- The digits and the power of two of a double without a sign. -/
theorem Unsigned.exists_dyadic (h : Unsigned x v) (hv : v < 2 ^ 1024) :
    ∃ d, dyadic? x = some d ∧ d.negative = false ∧ (d.mantissa : ℚ) * 2 ^ d.exponent = v := by
  obtain ⟨d, hd, hvalue⟩ := Option.map_eq_some_iff.mp (h.value? hv)
  have hsign : d.negative = false := by
    rw [← isNegative_of_dyadic? hd]
    exact h.isNegative
  refine ⟨d, hd, hsign, ?_⟩
  rw [← hvalue, Dyadic.value, hsign, if_neg Bool.false_ne_true, one_mul]

/-- A product is the double nearest to the product. -/
theorem Unsigned.mul (hx : Unsigned x v) (hy : Unsigned y w) (hv : v < 2 ^ 1024)
    (hw : w < 2 ^ 1024) : Unsigned (x * y) (nearest (v * w)) :=
  .of_pack (denotes_mul (hx.denotes hv) (hy.denotes hw)) rfl

private theorem infinity_mul (h : Denotes f w) (hw : 0 < w) :
    UnpackedFloat.mul .binary64 (.infinity .positive) f = .infinity .positive := by
  cases h with
  | zero => exact absurd hw (lt_irrefl 0)
  | finite hm he => rfl

/-- What is infinite stays so when it is multiplied by a positive number. -/
theorem Unsigned.infinite_mul (hx : Unsigned x v) (hy : Unsigned y w) (hv : 2 ^ 1024 ≤ v)
    (hw : 0 < w) (hw' : w < 2 ^ 1024) : Unsigned (x * y) v := by
  refine .infinite hv ?_
  change (Float.Model.pack (UnpackedFloat.mul .binary64 _ _)).unpack = _
  rw [hx.infinity hv, infinity_mul (hy.denotes hw') hw]
  rfl

private theorem infinity_add_sub (h : Denotes f w) :
    UnpackedFloat.add .binary64 (.infinity .positive) f = .infinity .positive ∧
      UnpackedFloat.sub .binary64 (.infinity .positive) f = .infinity .positive := by
  cases h <;> exact ⟨rfl, rfl⟩

/-- Neither does a finite number change it when it is added or taken away. -/
theorem Unsigned.infinite_add_sub (hx : Unsigned x v) (hy : Unsigned y w) (hv : 2 ^ 1024 ≤ v)
    (hw : w < 2 ^ 1024) : Unsigned (x + y) v ∧ Unsigned (x - y) v := by
  obtain ⟨hadd, hsub⟩ := infinity_add_sub (hy.denotes hw)
  constructor
  · refine .infinite hv ?_
    change (Float.Model.pack (UnpackedFloat.add .binary64 _ _)).unpack = _
    rw [hx.infinity hv, hadd]
    rfl
  · refine .infinite hv ?_
    change (Float.Model.pack (UnpackedFloat.sub .binary64 _ _)).unpack = _
    rw [hx.infinity hv, hsub]
    rfl

private theorem infinity_beq (h : Denotes f v) :
    UnpackedFloat.beq (.infinity .positive) f = false := by
  cases h <;> rfl

/-- What is infinite is no finite number. -/
theorem Unsigned.infinite_beq (hx : Unsigned x v) (hy : Unsigned y w) (hv : 2 ^ 1024 ≤ v)
    (hw : w < 2 ^ 1024) : (x == y) = false := by
  change UnpackedFloat.beq x.toModel.unpack y.toModel.unpack = false
  rw [hx.infinity hv, infinity_beq (hy.denotes hw)]

/-- What is infinite stays when it is rounded, and is cut to the largest number of a word. -/
theorem Unsigned.infinite_whole (hx : Unsigned x v) (hv : 2 ^ 1024 ≤ v) :
    round x = x ∧ toSigned64 x = 2 ^ 63 - 1 := by
  have hdyadic : dyadic? x = none := Option.map_eq_none_iff.mp (hx.value?_eq_none hv)
  have hnan := hx.isNaN
  constructor
  · rw [round, hdyadic]
  · rw [toSigned64, truncateWithin, hdyadic]
    dsimp only
    rw [hnan, hx.isNegative]
    rfl

/-! ## Decimals -/

private theorem value?_powersOfTen : ∀ k : Fin 23,
    value? (Float.exactlyRepresentablePowersOfTen[k]) = some (10 ^ (k : ℕ)) := by
  decide +kernel

private theorem denotes_powerOfTen (hk : k < 23) :
    Denotes (Float.exactlyRepresentablePowersOfTen[k]).toModel.unpack (10 ^ k) := by
  exact (value?_eq_some_iff.mp (value?_powersOfTen ⟨k, hk⟩)).denotes (by positivity)

/-- A decimal fraction becomes the nearest double, with a table of powers of ten or without. -/
theorem unsigned_ofScientific (hn : 0 < n) (hk : 0 < k) (hk' : k ≤ 2048 + n.log2) :
    Unsigned (Float.ofScientific n true k) (nearest (n / 10 ^ k)) := by
  rw [Float.ofScientific]
  split
  next hsmall =>
    exact .of_pack (denotes_div (denotes_toFloat hsmall.1)
      (denotes_powerOfTen (Nat.lt_succ_of_le hsmall.2)) (by positivity)) rfl
  next hlarge =>
    have hten : 0 < 10 ^ k := by positivity
    have h : Denotes (UnpackedFloat.div .binary64 (.finite .positive n 0 hn)
        (.finite .positive (10 ^ k) 0 hten))
        (nearest (n * 2 ^ (0 : ℤ) / ((10 ^ k : ℕ) * 2 ^ (0 : ℤ)))) := denotes_div_finite hn hten
    rw [zpow_zero, mul_one, mul_one] at h
    push_cast at h
    refine .of_pack h ?_
    have hexponent : (if true = true then Int.negOfNat k else Int.ofNat k) = -(k : ℤ) := by
      rw [if_pos rfl, Int.negOfNat_eq, Int.ofNat_eq_natCast]
    have hbits : (2 : ℤ) ^ Format.binary64.exponentBits = 2048 := rfl
    change Float.Model.pack (UnpackedFloat.ofScientific .binary64 n _) = _
    rw [hexponent, UnpackedFloat.ofScientific, dif_neg hn.ne', hbits, if_neg (by omega),
      if_neg (by omega), if_neg (by omega)]
    simp only [neg_neg, Int.toNat_natCast]

/-- The double of a whole number is the one nearest to it. -/
theorem unsigned_ofInt (n : ℕ) : Unsigned (ofInt n) (nearest n) := by
  obtain ⟨f, hf, hx⟩ := exists_ofInt_eq n
  exact .of_pack hf hx

private theorem unsigned_zero : Unsigned 0.0 0 := by
  have hunpack : (0.0 : Float).toModel.unpack = .zero .positive := rfl
  refine .finite (by positivity) ?_
  rw [hunpack]
  exact .zero

private theorem unpack_infinite : (1.0 / 0.0 : Float).toModel.unpack = .infinity .positive := by
  rfl

/-- Powers of two bases are compared through one comparison of powers. -/
private theorem pow_le_pow_of_pow_le {a b p q k l : ℕ} (hb : 0 < b) (hp : p ≠ 0)
    (h : a ^ p ≤ b ^ q) (hkl : q * k ≤ p * l) : a ^ k ≤ b ^ l := by
  refine (Nat.pow_le_pow_iff_left hp).mp ?_
  calc
    (a ^ k) ^ p = (a ^ p) ^ k := Nat.pow_right_comm a k p
    _ ≤ (b ^ q) ^ k := Nat.pow_le_pow_left h k
    _ = b ^ (q * k) := (Nat.pow_mul b q k).symm
    _ ≤ b ^ (l * p) := Nat.pow_le_pow_right hb (by rwa [Nat.mul_comm l])
    _ = (b ^ l) ^ p := Nat.pow_mul b l p

/-- Digits for more than 400 places in front of the point are more than any double has. -/
private theorem two_pow_mul_ten_pow_le (hn : 0 < n) (hk : k ≤ 10 ^ 8)
    (h : 400 < ((n.log2 : ℤ) * 30103) / 100000 + -(k : ℤ)) : 2 ^ 1024 * 10 ^ k ≤ n := by
  have hpower : 10 ^ k ≤ 2 ^ (n.log2 - 1024) :=
    pow_le_pow_of_pow_le (p := 643) (q := 2136) (by decide) (by decide) (by decide +kernel)
      (by omega)
  calc
    2 ^ 1024 * 10 ^ k ≤ 2 ^ 1024 * 2 ^ (n.log2 - 1024) := Nat.mul_le_mul_left _ hpower
    _ = 2 ^ n.log2 := by rw [← Nat.pow_add, Nat.add_sub_cancel' (by omega)]
    _ ≤ n := Nat.log2_self_le hn.ne'

/-- Digits more than 400 places behind the point are less than any double has. -/
private theorem mul_two_pow_lt {e : ℕ} (he : e ≤ 1075)
    (h : ((n.log2 : ℤ) * 30103) / 100000 + -(k : ℤ) < -400) : n * 2 ^ e < 10 ^ k := by
  have hpower : 2 ^ (n.log2 + 1 + e) ≤ 10 ^ k :=
    pow_le_pow_of_pow_le (p := 100000) (q := 30103) (by decide) (by decide) (by decide +kernel)
      (by omega)
  calc
    n * 2 ^ e < 2 ^ (n.log2 + 1) * 2 ^ e :=
      Nat.mul_lt_mul_of_pos_right Nat.lt_log2_self (by positivity)
    _ = 2 ^ (n.log2 + 1 + e) := (Nat.pow_add 2 _ e).symm
    _ ≤ 10 ^ k := hpower

/-- A decimal is read as a double without a sign, and with up to a hundred million places as the
double nearest to it. -/
theorem exists_unsigned_ofDecimal (n k : ℕ) :
    ∃ v, Unsigned (ofDecimal n (-(k : ℤ))) v ∧ (k ≤ 10 ^ 8 → v = nearest (n / 10 ^ k)) := by
  have hten : (0 : ℚ) < 10 ^ k := by positivity
  rw [ofDecimal]
  split
  next hzero =>
    refine ⟨0, unsigned_zero, fun _ => ?_⟩
    rw [hzero, Nat.cast_zero, zero_div, nearest_zero]
  next hne =>
    have hn := Nat.pos_of_ne_zero hne
    dsimp only
    split
    next hlarge =>
      by_cases hk : k ≤ 10 ^ 8
      · refine ⟨_, .infinite ?_ unpack_infinite, fun _ => rfl⟩
        rw [← nearest_two_pow]
        refine nearest_mono (by positivity) ?_
        have hle : ((2 ^ 1024 * 10 ^ k : ℕ) : ℚ) ≤ n :=
          Nat.cast_le.mpr (two_pow_mul_ten_pow_le hn hk hlarge)
        rw [le_div_iff₀ hten]
        simpa only [Nat.cast_mul, Nat.cast_pow, Nat.cast_ofNat] using hle
      · exact ⟨2 ^ 1024, .infinite le_rfl unpack_infinite, fun h => absurd h hk⟩
    next =>
      split
      next hsmall =>
        have hlt : (n : ℚ) / 10 ^ k < 2 ^ (-1075 : ℤ) := by
          have hlt : ((n * 2 ^ 1075 : ℕ) : ℚ) < (10 ^ k : ℕ) :=
            Nat.cast_lt.mpr (mul_two_pow_lt le_rfl hsmall)
          rw [div_lt_iff₀ hten, zpow_neg, ← div_eq_inv_mul, lt_div_iff₀ (two_zpow_pos 1075)]
          simp only [Nat.cast_mul, Nat.cast_pow, Nat.cast_ofNat] at hlt
          exact hlt
        refine ⟨0, unsigned_zero, fun _ => ?_⟩
        rw [nearest_eq_zero (by positivity) hlt]
      next hsize =>
        refine ⟨_, ?_, fun _ => rfl⟩
        rcases Nat.eq_zero_or_pos k with rfl | hpos
        · rw [pow_zero, div_one]
          exact unsigned_ofInt n
        · have hneg : decide (-(k : ℤ) < 0) = true := decide_eq_true (by omega)
          rw [hneg, Int.natAbs_neg, Int.natAbs_natCast]
          exact unsigned_ofScientific hn hpos (by omega)

end Adjudicator.Number
