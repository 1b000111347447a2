import Adjudicator.Proofs.Number.Finite

/-!
# Bits as an order

The bits of doubles without a sign, read as whole numbers, order the doubles. Main statement: this
is the order of numbers, with infinity above all of them and what is not a number at the end.
-/

namespace Adjudicator.Number

open Float.Model Float.Model.UnpackedFloat

variable {x y : Float} {d : Dyadic} {f : UnpackedFloat} {v w : ℚ}

/-! ## Signs -/

/-- The sign of a double; what is not a number has none. -/
def signBit : UnpackedFloat → Sign
  | .zero s => s
  | .finite s _ _ _ => s
  | .infinity s => s
  | .notANumber => .positive

private theorem signOf_isNegative (x : Float) :
    signOf (isNegative x) = Sign.ofBitVec (@unpackSign .binary64 x.toModel.toBits.toBitVec) :=
  (ofBitVec_unpackSign _).symm

/-- The sign bit of a packed double is its sign. -/
theorem isNegative_of_pack (hx : x.toModel = Float.Model.pack f) :
    signOf (isNegative x) = signBit f := by
  rw [signOf_isNegative, hx]
  change Sign.ofBitVec (unpackSign (UnpackedFloat.pack .binary64 f)) = _
  cases f with
  | notANumber => rfl
  | infinity s =>
    rw [UnpackedFloat.pack, packedInfinity, unpackSign_packComponents, ofBitVec_toBitVec, signBit]
  | zero s =>
    rw [UnpackedFloat.pack, packedZero, unpackSign_packComponents, ofBitVec_toBitVec, signBit]
  | finite s m e hm =>
    simp only [UnpackedFloat.pack, packedInfinity]
    split_ifs <;> rw [unpackSign_packComponents, ofBitVec_toBitVec, signBit]

/-- The sign bit of a double is the sign of what it unpacks to. -/
theorem isNegative_of_unpack (x : Float) :
    signOf (isNegative x) = signBit x.toModel.unpack := by
  rw [signOf_isNegative]
  change _ = signBit (UnpackedFloat.unpack .binary64 x.toModel.toBits.toBitVec)
  unfold UnpackedFloat.unpack
  dsimp only
  split_ifs with hexponent hmantissa hexponent' hmantissa'
  · rfl
  · rw [x.toModel.valid.eq_packedNaN hexponent hmantissa]
    rfl
  · rfl
  · rfl
  · rfl

/-- An absolute value has no sign. -/
theorem isNegative_abs (x : Float) : isNegative (abs x) = false := by
  rw [abs]
  split
  next hneg =>
    have hsign := isNegative_of_unpack x
    have hsign' : signOf (isNegative (-x)) = signBit x.toModel.unpack.neg := isNegative_of_pack rfl
    rw [hneg] at hsign
    cases hbit : isNegative (-x) with
    | false => rfl
    | true =>
      rw [hbit] at hsign'
      cases hx : x.toModel.unpack <;> rw [hx] at hsign hsign' <;> cases hsign <;> cases hsign'
  next hpos => exact Bool.eq_false_iff.mpr hpos

/-! ## Order -/

/-- Without a sign the bits hold the exponent above the digits. -/
private theorem toBits_of_dyadic? (h : dyadic? x = some d) (hx : isNegative x = false) :
    (x.toBits.toNat : ℤ) = (d.exponent + 1074) * 2 ^ 52 + d.mantissa ∧ d.negative = false := by
  have hsmall : ¬x.toBits.toNat / 2 ^ 63 = 1 := by
    intro hone
    have hx' : (x.toBits.toNat / 2 ^ 63 == 1) = false := hx
    rw [hone] at hx'
    cases hx'
  have hlt := x.toBits.toNat_lt
  have hbits : x.toModel.toBits.toBitVec.toNat = x.toBits.toNat := rfl
  rw [dyadic?_eq] at h
  simp only [hbits] at h
  split_ifs at h with hspecial hzero <;> obtain rfl := Option.some.inj h
  · refine ⟨?_, hx⟩
    dsimp only
    omega
  · refine ⟨?_, hx⟩
    dsimp only
    omega

private theorem value_lt_of_toBits_lt (hx : dyadic? x = some d) {d' : Dyadic}
    (hy : dyadic? y = some d') (hxs : isNegative x = false) (hys : isNegative y = false)
    (h : x.toBits.toNat < y.toBits.toNat) : d.value < d'.value := by
  obtain ⟨hxbits, hneg⟩ := toBits_of_dyadic? hx hxs
  obtain ⟨hybits, hneg'⟩ := toBits_of_dyadic? hy hys
  obtain ⟨hlt, hmin, _, hfull⟩ := dyadic?_bounds hx
  obtain ⟨hlt', hmin', _, hfull'⟩ := dyadic?_bounds hy
  simp only [Dyadic.value, hneg, hneg', Bool.false_eq_true, if_false, one_mul]
  rcases lt_trichotomy d.exponent d'.exponent with hexponent | hexponent | hexponent
  · exact mul_two_zpow_lt hlt (hfull' (by omega)) hexponent
  · have hmantissa : d.mantissa < d'.mantissa := by omega
    rw [hexponent]
    exact mul_lt_mul_of_pos_right (by exact_mod_cast hmantissa) (two_zpow_pos _)
  · have hdigits := hfull (by omega)
    omega

/-- A double that is not finite and has no sign is infinite or not a number, each with bits of its
own. -/
private theorem toBits_of_dyadic?_eq_none (h : dyadic? x = none) (hx : isNegative x = false) :
    x.toModel.unpack = .infinity .positive ∧ x.toBits.toNat = 2047 * 2 ^ 52 ∨
      x.toModel.unpack = .notANumber ∧ x.toBits.toNat = 2047 * 2 ^ 52 + 2 ^ 51 := by
  have hspecial : x.toBits.toNat / 2 ^ 52 % 2 ^ 11 = 2047 := by
    rw [dyadic?_eq] at h
    split_ifs at h with hspecial
    exact hspecial
  have hsign := isNegative_of_unpack x
  rw [hx] at hsign
  have hexponent : @unpackExponent .binary64 x.toModel.toBits.toBitVec = -1#11 :=
    (unpackExponent_eq_iff (by decide)).mpr hspecial
  have hunpack : x.toModel.unpack = if @unpackMantissa .binary64 x.toModel.toBits.toBitVec = 0#52
      then .infinity (Sign.ofBitVec (@unpackSign .binary64 x.toModel.toBits.toBitVec))
      else .notANumber := by
    change UnpackedFloat.unpack .binary64 x.toModel.toBits.toBitVec = _
    unfold UnpackedFloat.unpack
    simp only [hexponent, if_true]
  split_ifs at hunpack with hmantissa
  · refine .inl ⟨?_, ?_⟩
    · rw [hunpack, signBit] at hsign
      rw [hunpack, ← hsign]
      rfl
    · have hlt := x.toBits.toNat_lt
      have hbit : x.toBits.toNat / 2 ^ 63 ≠ 1 := by
        intro hone
        have hx' : (x.toBits.toNat / 2 ^ 63 == 1) = false := hx
        rw [hone] at hx'
        cases hx'
      have hfraction : x.toBits.toNat % 2 ^ 52 = 0 := by
        have htoNat := toNat_unpackMantissa x.toModel.toBits.toBitVec
        rw [hmantissa] at htoNat
        exact htoNat.symm
      omega
  · refine .inr ⟨hunpack, ?_⟩
    change x.toModel.toBits.toBitVec.toNat = _
    rw [x.toModel.valid.eq_packedNaN hexponent hmantissa]
    rfl

/-- Not to be a number is the same for a double and for what it unpacks to. -/
theorem isNaN_iff : isNaN x = true ↔ x.toModel.unpack = .notANumber := by
  change (!UnpackedFloat.beq x.toModel.unpack x.toModel.unpack) = true ↔ _
  rw [Bool.not_eq_true', UnpackedFloat.beq]
  cases x.toModel.unpack with
  | notANumber => exact iff_of_true rfl rfl
  | infinity s => cases s <;> exact iff_of_false nofun nofun
  | zero s => exact iff_of_false nofun nofun
  | finite s m e hm =>
    refine iff_of_false ?_ nofun
    cases s <;> simp [UnpackedFloat.compare]

/-- A double that stands for a number is one. -/
theorem isNaN_of_value? (hx : value? x = some v) : isNaN x = false := by
  rw [Bool.eq_false_iff, Ne, isNaN_iff]
  intro hnan
  have hfinite := (value?_eq_some_iff.mp hx).isFinite
  rw [hnan] at hfinite
  cases hfinite

private theorem lt_iff_compare (x y : Float) :
    x < y ↔ x.toModel.unpack.compare y.toModel.unpack = some .lt := by
  have hlt : x < y ↔ x.toModel.unpack.lt y.toModel.unpack = true := decide_eq_true_iff
  rw [hlt, UnpackedFloat.lt, beq_iff_eq]

/-- Two doubles compared the other way round. -/
private theorem compare_swap (f g : UnpackedFloat) :
    g.compare f = (f.compare g).map Ordering.swap := by
  have hfinite : ∀ (m m' : ℕ) (e e' : ℤ), (compare e' e).then (compare m' m) =
      ((compare e e').then (compare m m')).swap := by
    intro m m' e e'
    rw [Ordering.swap_then, ← Std.OrientedOrd.eq_swap, ← Std.OrientedOrd.eq_swap]
  rcases f with (_ | _) | _ | (_ | _) | ⟨_ | _, m, e, hm⟩ <;>
    rcases g with (_ | _) | _ | (_ | _) | ⟨_ | _, m', e', hm'⟩ <;>
    first | rfl | simp only [UnpackedFloat.compare, hfinite m m' e e', Option.map_some]

/-- Whether a double stands before another: as a number, or as a number before what is none. -/
def Before (x y : Float) : Prop :=
  x < y ∨ isNaN y = true ∧ isNaN x = false

instance (x y : Float) : Decidable (Before x y) :=
  inferInstanceAs (Decidable (x < y ∨ isNaN y = true ∧ isNaN x = false))

/-- Of two doubles only one is before the other. -/
theorem Before.asymm (h : Before x y) : ¬Before y x := by
  have hnot : ∀ {x y : Float}, x < y → isNaN x = false ∧ ¬y < x := by
    intro x y hlt
    rw [lt_iff_compare] at hlt
    refine ⟨?_, ?_⟩
    · rw [Bool.eq_false_iff, Ne, isNaN_iff]
      intro hx
      rw [hx] at hlt
      cases hlt
    · rw [lt_iff_compare, compare_swap, hlt]
      exact nofun
  rintro (h' | ⟨hx, hy⟩)
  · rcases h with h | ⟨hy, _⟩
    · exact (hnot h).2 h'
    · rw [(hnot h').1] at hy
      cases hy
  · rcases h with h | ⟨_, hx'⟩
    · rw [(hnot h).1] at hx
      cases hx
    · rw [hx'] at hx
      cases hx

private theorem toBits_lt_of_finite (hx : dyadic? x = some d) (hxs : isNegative x = false) :
    x.toBits.toNat < 2047 * 2 ^ 52 := by
  obtain ⟨hbits, _⟩ := toBits_of_dyadic? hx hxs
  obtain ⟨hlt, hmin, hmax, hfull⟩ := dyadic?_bounds hx
  omega

private theorem lt_of_infinity (hx : value? x = some v)
    (hy : y.toModel.unpack = .infinity .positive) : x < y := by
  have hfinite := (value?_eq_some_iff.mp hx).isFinite
  rw [lt_iff_compare, hy]
  generalize x.toModel.unpack = f at hfinite
  rcases f with (_ | _) | _ | (_ | _) | ⟨_ | _, m, e, hm⟩ <;>
    first | rfl | cases hfinite

private theorem before_of_toBits_lt (hx : isNegative x = false) (hy : isNegative y = false)
    (h : x.toBits.toNat < y.toBits.toNat) : Before x y := by
  cases hdx : dyadic? x with
  | some d =>
    have hvx : value? x = some d.value := by rw [value?, hdx, Option.map_some]
    cases hdy : dyadic? y with
    | some d' =>
      have hvy : value? y = some d'.value := by rw [value?, hdy, Option.map_some]
      exact .inl ((lt_iff hvx hvy).mpr (value_lt_of_toBits_lt hdx hdy hx hy h))
    | none =>
      rcases toBits_of_dyadic?_eq_none hdy hy with ⟨hyu, _⟩ | ⟨hyu, _⟩
      · exact .inl (lt_of_infinity hvx hyu)
      · exact .inr ⟨isNaN_iff.mpr hyu, isNaN_of_value? hvx⟩
  | none =>
    cases hdy : dyadic? y with
    | some d' =>
      have hfinite := toBits_lt_of_finite hdy hy
      rcases toBits_of_dyadic?_eq_none hdx hx with ⟨_, hbits⟩ | ⟨_, hbits⟩ <;> omega
    | none =>
      rcases toBits_of_dyadic?_eq_none hdx hx with ⟨hxu, hbits⟩ | ⟨_, hbits⟩ <;>
        rcases toBits_of_dyadic?_eq_none hdy hy with ⟨_, hbits'⟩ | ⟨hyu, hbits'⟩
      all_goals try omega
      refine .inr ⟨isNaN_iff.mpr hyu, ?_⟩
      rw [Bool.eq_false_iff, Ne, isNaN_iff, hxu]
      intro hnan
      cases hnan

/-- A double between finite ones is finite. -/
theorem exists_value?_of_lt (hx : value? x = some v) (hy : value? y = some w) {z : Float}
    (hxz : x < z) (hzy : z < y) : ∃ u, value? z = some u := by
  cases hz : value? z with
  | some u => exact ⟨u, rfl⟩
  | none =>
    exfalso
    have hspecial := unpack_of_dyadic?_eq_none (Option.map_eq_none_iff.mp hz)
    have hxfinite := (value?_eq_some_iff.mp hx).isFinite
    have hyfinite := (value?_eq_some_iff.mp hy).isFinite
    rw [lt_iff_compare] at hxz hzy
    generalize x.toModel.unpack = f at hxz hxfinite
    generalize y.toModel.unpack = g at hzy hyfinite
    rcases hspecial with ⟨_ | _, hs⟩ | hs <;> rw [hs] at hxz hzy
    · rcases f with (_ | _) | _ | (_ | _) | ⟨_ | _, m, e, hm⟩ <;> cases hxfinite <;> cases hxz
    · rcases g with (_ | _) | _ | (_ | _) | ⟨_ | _, m, e, hm⟩ <;> cases hyfinite <;> cases hzy
    · cases hzy

/-- The bits of doubles without a sign order them as numbers, with what is not a number at the
end. -/
theorem toBits_lt_iff (hx : isNegative x = false) (hy : isNegative y = false) :
    x.toBits.toNat < y.toBits.toNat ↔ Before x y := by
  refine ⟨before_of_toBits_lt hx hy, fun h => ?_⟩
  rcases lt_trichotomy x.toBits.toNat y.toBits.toNat with hlt | heq | hgt
  · exact hlt
  · obtain rfl : x = y := by
      obtain ⟨⟨b, hb⟩⟩ := x
      obtain ⟨⟨b', hb'⟩⟩ := y
      obtain rfl : b = b' := UInt64.toNat_inj.mp heq
      rfl
    exact absurd h h.asymm
  · exact absurd h (before_of_toBits_lt hy hx hgt).asymm

end Adjudicator.Number
