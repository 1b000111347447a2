import Adjudicator.Number.Dyadic
import Adjudicator.Proofs.Number.Packing

/-!
# Quotients of whole numbers

A whole number becomes the nearest double, and infinite when it is too large for doubles. Main
statement: of two parts of a whole the larger one is no smaller a fraction of the whole.
-/

namespace Adjudicator.Number

open Float.Model Float.Model.UnpackedFloat

variable {f : UnpackedFloat} {v : ℚ} {n : ℕ}

/-! ## Whole numbers -/

private theorem denotes_one : Denotes (Float.ofBits 0x3FF0000000000000).toModel.unpack 1 := by
  have h : Denotes (.finite .positive (2 ^ 52) (-52) (by decide)) ((2 ^ 52 : ℕ) * 2 ^ (-52 : ℤ)) :=
    .finite _ (by rw [targetExponent_eq, totalExponent, Nat.log2_two_pow]; rfl)
  have hvalue : ((2 ^ 52 : ℕ) : ℚ) * 2 ^ (-52 : ℤ) = 1 := by norm_num
  rw [hvalue] at h
  exact h

/-- A whole number of at most 53 digits is converted exactly. -/
theorem denotes_toFloat (hn : n < 2 ^ 53) : Denotes n.toUInt64.toFloat.toModel.unpack n := by
  have hself := nearest_natCast hn
  have hword : n.toUInt64.toNat = n := by
    rw [Nat.toUInt64_eq, UInt64.toNat_ofNat']
    omega
  have hlt : nearest n < 2 ^ 1024 := by
    rw [hself]
    calc
      (n : ℚ) < 2 ^ 53 := by exact_mod_cast hn
      _ ≤ 2 ^ 1024 := pow_le_pow_right₀ one_le_two (by decide)
  have hunpack : n.toUInt64.toFloat.toModel.unpack = UnpackedFloat.ofNat .binary64 n := by
    change (Float.Model.pack (UnpackedFloat.ofNat .binary64 n.toUInt64.toNat)).unpack = _
    rw [hword, unpack_pack (denotes_ofNat n), if_pos hlt]
  have h := denotes_ofNat n
  rw [hself] at h
  rwa [hunpack]

/-- A whole number becomes the nearest double before it is packed. -/
theorem exists_ofInt_eq (n : ℕ) :
    ∃ f, Denotes f (nearest n) ∧ (ofInt n).toModel = Float.Model.pack f := by
  have hofInt : ofInt n = Float.ofScientific n false 0 := rfl
  rw [hofInt, Float.ofScientific]
  split
  next hsmall =>
    -- a number of at most 53 digits is converted exactly and then multiplied by one
    refine ⟨UnpackedFloat.mul .binary64 n.toUInt64.toFloat.toModel.unpack
      (Float.ofBits 0x3FF0000000000000).toModel.unpack, ?_, rfl⟩
    have h := denotes_mul (denotes_toFloat hsmall.1) denotes_one
    rw [mul_one] at h
    exact h
  next hlarge =>
    have hn : 0 < n := by omega
    have hpos : 0 < n <<< 53 * 10 ^ (0 : ℕ) := by
      rw [Nat.shiftLeft_eq]
      positivity
    have hvalue : ((n <<< 53 * 10 ^ (0 : ℕ) : ℕ) : ℚ) * 2 ^ (-53 + 0 : ℤ) = n := by
      rw [Nat.shiftLeft_eq, pow_zero, mul_one]
      push_cast
      rw [mul_assoc]
      norm_num
    have hplace : -53 + 0 ≤ lastPlace n := by
      rw [lastPlace, Int.log_natCast]
      omega
    have h := denotes_roundWithAccuracy (e := -53 + 0) (represents_exact (n <<< 53 * 10 ^ (0 : ℕ)))
      (by exact_mod_cast hpos) (by rw [hvalue]; exact hplace)
    rw [hvalue] at h
    have hpower : (0 : ℤ) ≤ 2 ^ Format.binary64.exponentBits := by positivity
    refine ⟨UnpackedFloat.ofScientific .binary64 n 0, ?_, rfl⟩
    rw [UnpackedFloat.ofScientific, dif_neg hn.ne', if_neg (by decide), if_neg (by omega),
      if_pos le_rfl]
    exact h

/-- The double of a whole number is infinite or the nearest one. -/
theorem unpack_ofInt (n : ℕ) :
    (ofInt n).toModel.unpack = .infinity .positive ∨
      Denotes (ofInt n).toModel.unpack (nearest n) := by
  obtain ⟨f, hf, hfn⟩ := exists_ofInt_eq n
  rw [hfn, unpack_pack hf]
  split
  · exact .inr hf
  · exact .inl rfl

/-- In range it is the nearest one. -/
theorem unpack_ofInt_of_lt (hn : nearest n < 2 ^ 1024) :
    Denotes (ofInt n).toModel.unpack (nearest n) := by
  obtain ⟨f, hf, hfn⟩ := exists_ofInt_eq n
  rw [hfn, unpack_pack hf, if_pos hn]
  exact hf

/-- A part of a whole is the double nearest to the quotient. -/
theorem denotes_ofInt_div {a t : ℕ} (hat : a ≤ t) (ht : 0 < t) (hlt : nearest t < 2 ^ 1024) :
    Denotes (ofInt a / ofInt t).toModel.unpack (nearest (nearest a / nearest t)) := by
  have hat' : nearest a ≤ nearest t := nearest_mono (Nat.cast_nonneg a) (by exact_mod_cast hat)
  have hone : nearest 1 = 1 := by exact_mod_cast nearest_natCast (n := 1) (by decide)
  have hpos : 0 < nearest t := by
    have h : nearest 1 ≤ nearest t := nearest_mono zero_le_one (by exact_mod_cast ht)
    rw [hone] at h
    exact zero_lt_one.trans_le h
  have hsmall : nearest (nearest a / nearest t) < 2 ^ 1024 := by
    calc
      nearest (nearest a / nearest t) ≤ nearest 1 :=
        nearest_mono (div_nonneg (nearest_nonneg _) hpos.le) ((div_le_one hpos).mpr hat')
      _ < 2 ^ 1024 := by
        rw [hone]
        exact one_lt_pow₀ one_lt_two (by decide)
  have h := denotes_div (unpack_ofInt_of_lt (hat'.trans_lt hlt)) (unpack_ofInt_of_lt hlt) hpos
  change Denotes (Float.Model.pack (UnpackedFloat.div .binary64 _ _)).unpack _
  rw [unpack_pack h, if_pos hsmall]
  exact h

private theorem div_infinity (hf : Denotes f v) :
    UnpackedFloat.div .binary64 f (.infinity .positive) = .zero .positive := by
  cases hf <;> rfl

/-- A part of a whole that is too large for doubles is zero or no number. -/
private theorem unpack_div_infinity (a : ℕ) {x : Float}
    (hx : x.toModel.unpack = .infinity .positive) :
    (ofInt a / x).toModel.unpack = .zero .positive ∨
      (ofInt a / x).toModel.unpack = .notANumber := by
  change (Float.Model.pack (UnpackedFloat.div .binary64 _ _)).unpack = _ ∨
    (Float.Model.pack (UnpackedFloat.div .binary64 _ _)).unpack = _
  rw [hx]
  rcases unpack_ofInt a with ha | ha
  · rw [ha]
    exact .inr rfl
  · rw [div_infinity ha]
    exact .inl rfl

/-- Of two parts of a whole the larger one is no smaller a fraction of the whole. -/
theorem ofInt_div_mono {a b t : ℕ} (hab : a ≤ b) (hbt : b ≤ t) (ht : 0 < t) :
    ¬ofInt b / ofInt t < ofInt a / ofInt t ∧
      (t < 2 ^ 64 → ofInt a / ofInt t ≤ ofInt b / ofInt t) := by
  have hlt_iff : ∀ x y : Float, x < y ↔ x.toModel.unpack.lt y.toModel.unpack = true := by
    intro x y
    exact decide_eq_true_iff
  have hle_iff : ∀ x y : Float, x ≤ y ↔ x.toModel.unpack.le y.toModel.unpack = true := by
    intro x y
    exact decide_eq_true_iff
  rw [hlt_iff, hle_iff, Bool.not_eq_true]
  by_cases hlt : nearest t < 2 ^ 1024
  · have hab' : nearest a ≤ nearest b := nearest_mono (Nat.cast_nonneg a) (by exact_mod_cast hab)
    have hquotient : nearest (nearest a / nearest t) ≤ nearest (nearest b / nearest t) :=
      nearest_mono (div_nonneg (nearest_nonneg _) (nearest_nonneg _))
        (div_le_div_of_nonneg_right hab' (nearest_nonneg _))
    obtain ⟨hle, hnlt⟩ := le_of_denotes (denotes_ofInt_div (hab.trans hbt) ht hlt)
      (denotes_ofInt_div hbt ht hlt) hquotient
    exact ⟨hnlt, fun _ => hle⟩
  · constructor
    · have hinfinity : (ofInt t).toModel.unpack = .infinity .positive := by
        obtain ⟨f, hf, hft⟩ := exists_ofInt_eq t
        rw [hft, unpack_pack hf, if_neg hlt]
      rcases unpack_div_infinity a hinfinity with ha | ha <;>
        rcases unpack_div_infinity b hinfinity with hb | hb <;> rw [ha, hb] <;> rfl
    · intro hword
      refine absurd ?_ hlt
      calc
        nearest t ≤ nearest (2 ^ 64) :=
          nearest_mono (Nat.cast_nonneg t) (by exact_mod_cast hword.le)
        _ = 2 ^ 64 := nearest_two_pow 64
        _ < 2 ^ 1024 := pow_lt_pow_right₀ one_lt_two (by decide)

end Adjudicator.Number
