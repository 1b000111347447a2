import Adjudicator.Proofs.Number.Shortest
import Adjudicator.Proofs.Value.Written

/-!
# Shown numbers

Reports show a number with at most four decimals. Main statement: up to a trillion the text denotes
the number within half a thousandth, so numbers that are shown alike are near each other.
-/

namespace Adjudicator.Value

open Number

variable {x y : Float} {v w : ℚ}

/-- A text denotes a number within a distance. -/
def DenotesWithin (s : List Char) (v ε : ℚ) : Prop :=
  ∃ (negative : Bool) (l : DecimalLiteral), s = withSign negative l.text ∧
    |(if negative then -l.exact else l.exact) - v| ≤ ε

/-- A text that is close to a number is close to what is near the number. -/
theorem DenotesWithin.add {s : List Char} {ε δ : ℚ} (h : DenotesWithin s v ε)
    (hvw : |v - w| ≤ δ) : DenotesWithin s w (ε + δ) := by
  obtain ⟨negative, l, hs, hl⟩ := h
  refine ⟨negative, l, hs, ?_⟩
  calc
    _ ≤ |(if negative then -l.exact else l.exact) - v| + |v - w| := abs_sub_le _ _ _
    _ ≤ ε + δ := add_le_add hl hvw

/-- Numbers that one text denotes are not far from each other. -/
theorem DenotesWithin.dist_le {s : List Char} {ε δ : ℚ} (h : DenotesWithin s v ε)
    (h' : DenotesWithin s w δ) : |v - w| ≤ ε + δ := by
  obtain ⟨negative, l, rfl, hl⟩ := h
  obtain ⟨negative', l', hs, hl'⟩ := h'
  rw [← signed_exact_eq hs] at hl'
  calc
    |v - w| ≤ |v - (if negative then -l.exact else l.exact)| +
        |(if negative then -l.exact else l.exact) - w| := abs_sub_le _ _ _
    _ ≤ ε + δ := add_le_add (by rwa [abs_sub_comm]) hl'

/-! ## Texts of numbers -/

/-- The digits of a whole number denote it exactly. -/
theorem denotesWithin_intChars (n : ℤ) : DenotesWithin (intChars n) n 0 := by
  cases n with
  | ofNat k =>
    refine ⟨false, .ofNat k, (DecimalLiteral.ofNat_text k).symm, ?_⟩
    rw [if_neg Bool.false_ne_true, DecimalLiteral.exact_ofNat, Int.ofNat_eq_natCast,
      Int.cast_natCast, sub_self, abs_zero]
  | negSucc k =>
    refine ⟨true, .ofNat (k + 1), congrArg ('-' :: ·) (DecimalLiteral.ofNat_text _).symm, ?_⟩
    rw [if_pos rfl, DecimalLiteral.exact_ofNat, Int.cast_negSucc, sub_self, abs_zero]

/-- The shortest decimal denotes a double within half of its last place. -/
theorem denotesWithin_plain {k : ℤ} (hx : value? x = some v) (hk : -1021 ≤ k) (hv : |v| < 2 ^ k) :
    DenotesWithin (plain x) v (2 ^ (k - 53)) := by
  obtain ⟨d, hd, rfl⟩ := Option.map_eq_some_iff.mp hx
  obtain ⟨hsign, hdigits⟩ := abs_shortest_sub_le .away hd
  obtain ⟨l, htext, hexact⟩ := exists_positional (d.shortest .away)
  obtain ⟨-, -, -, hfull⟩ := dyadic?_bounds hd
  have hplace : d.exponent - 1 ≤ k - 53 := by
    by_cases hmin : d.exponent = -1074
    · omega
    · rw [abs_dyadic_value] at hv
      have hle : (2 : ℚ) ^ (d.exponent + 52) < 2 ^ k := by
        calc
          (2 : ℚ) ^ (d.exponent + 52) = 2 ^ 52 * 2 ^ d.exponent := by
            rw [zpow_add₀ two_ne_zero, mul_comm]
            norm_cast
          _ ≤ d.mantissa * 2 ^ d.exponent :=
            mul_le_mul_of_nonneg_right (by exact_mod_cast hfull hmin) (two_zpow_pos _).le
          _ < 2 ^ k := hv
      have hlt := (zpow_lt_zpow_iff_right₀ one_lt_two).mp hle
      omega
  refine ⟨d.negative, l, ?_, ?_⟩
  · rw [plain, hd, ← hsign]
    exact htext
  · rw [hexact, Dyadic.value]
    have hsame : ∀ a b : ℚ, |(if d.negative then -a else a) - (if d.negative then -1 else 1) * b| =
        |a - b| := by
      intro a b
      split
      · rw [neg_one_mul, ← neg_sub', abs_neg]
      · rw [one_mul]
    rw [hsame]
    exact hdigits.trans (zpow_le_zpow_right₀ one_le_two hplace)

/-! ## Shown numbers -/

private theorem value?_tenThousand : value? 10000.0 = some 10000 := by
  decide +kernel

/-- A number is rounded to four decimals with a small error. -/
private theorem exists_value?_rounded (hx : value? x = some v) (hv : |v| ≤ 10 ^ 12) :
    ∃ q, value? (round (x * 10000.0) / 10000.0) = some q ∧ |q - v| ≤ 11 / 50000 := by
  have hproduct : |v * 10000| < 2 ^ 54 := by
    rw [abs_mul]
    norm_num at *
    linarith
  obtain ⟨hpbound, hperror⟩ := rounded_bounds (k := 54) (by decide) hproduct
  have hp := value?_mul hx value?_tenThousand hpbound
  obtain ⟨n, hn, hnerror⟩ := exists_value?_round hp
  have hnv : |(n : ℚ) - v * 10000| ≤ 3 / 2 := by
    calc
      |(n : ℚ) - v * 10000| ≤ |(n : ℚ) - rounded (v * 10000)| +
          |rounded (v * 10000) - v * 10000| := abs_sub_le _ _ _
      _ ≤ 1 / 2 + 2 ^ (((54 : ℕ) : ℤ) - 54) := add_le_add hnerror hperror
      _ = 3 / 2 := by norm_num
  have hquotient : |(n : ℚ) / 10000 - v| ≤ 3 / 20000 := by
    have heq : (n : ℚ) / 10000 - v = (n - v * 10000) / 10000 := by ring
    rw [heq, abs_div, abs_of_pos (by norm_num : (0 : ℚ) < 10000), div_le_iff₀ (by norm_num)]
    linarith
  have hsize : |(n : ℚ) / 10000| < 2 ^ 40 := by
    calc
      |(n : ℚ) / 10000| ≤ |(n : ℚ) / 10000 - v| + |v| := by
        have h := abs_add_le ((n : ℚ) / 10000 - v) v
        rwa [sub_add_cancel] at h
      _ ≤ 3 / 20000 + 10 ^ 12 := add_le_add hquotient hv
      _ < 2 ^ 40 := by norm_num
  obtain ⟨hqbound, hqerror⟩ := rounded_bounds (k := 40) (by decide) hsize
  refine ⟨_, value?_div hn value?_tenThousand (by norm_num) hqbound, ?_⟩
  calc
    |rounded ((n : ℚ) / 10000) - v| ≤ |rounded ((n : ℚ) / 10000) - n / 10000| +
        |(n : ℚ) / 10000 - v| := abs_sub_le _ _ _
    _ ≤ 2 ^ (((40 : ℕ) : ℤ) - 54) + 3 / 20000 := add_le_add hqerror hquotient
    _ ≤ 11 / 50000 := by norm_num

/-- Up to a trillion a shown number denotes the number within half a thousandth. -/
theorem denotesWithin_shown (hx : value? x = some v) (hv : |v| ≤ 10 ^ 12) :
    DenotesWithin (shown x) v (1 / 2500) := by
  obtain ⟨q, hq, herror⟩ := exists_value?_rounded hx hv
  have hsize : |q| < 2 ^ 40 := by
    calc
      |q| ≤ |q - v| + |v| := by
        have h := abs_add_le (q - v) v
        rwa [sub_add_cancel] at h
      _ ≤ 11 / 50000 + 10 ^ 12 := add_le_add herror hv
      _ < 2 ^ 40 := by norm_num
  have hweaken : ∀ {ε : ℚ}, ε ≤ 1 / 5556 → DenotesWithin (shown x) q ε →
      DenotesWithin (shown x) v (1 / 2500) := by
    intro ε hε h
    obtain ⟨negative, l, hs, hl⟩ := h.add herror
    refine ⟨negative, l, hs, hl.trans ?_⟩
    linarith
  cases hwhole : isWhole (round (x * 10000.0) / 10000.0) with
  | true =>
    have hshown : shown x = intChars (toSigned64 (round (x * 10000.0) / 10000.0)) := if_pos hwhole
    obtain ⟨n, rfl⟩ := (isWhole_iff hq).mp hwhole
    have hn : |n| < 2 ^ 40 := by exact_mod_cast hsize
    have hcut : toSigned64 (round (x * 10000.0) / 10000.0) = n := by
      rw [abs_lt] at hn
      rw [toSigned64_eq hq]
      omega
    rw [hcut] at hshown
    exact hweaken (by norm_num) (hshown ▸ denotesWithin_intChars n)
  | false =>
    have hshown : shown x = plain (round (x * 10000.0) / 10000.0) :=
      if_neg (Bool.not_eq_true _ ▸ hwhole)
    refine hweaken ?_ (hshown ▸ denotesWithin_plain (k := 40) hq (by norm_num) ?_)
    · norm_num
    · exact_mod_cast hsize

/-- Numbers up to a trillion that are shown alike differ by less than a thousandth. -/
theorem abs_sub_le_of_shown_eq (hx : value? x = some v) (hy : value? y = some w)
    (hv : |v| ≤ 10 ^ 12) (hw : |w| ≤ 10 ^ 12) (h : shown x = shown y) : |v - w| ≤ 1 / 1250 := by
  have hd := (denotesWithin_shown hx hv).dist_le (h ▸ denotesWithin_shown hy hw)
  linarith

end Adjudicator.Value
