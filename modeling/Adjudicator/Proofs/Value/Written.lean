import Adjudicator.Number.Written
import Adjudicator.Proofs.Value.Decimal
import Mathlib.Algebra.Order.Field.Rat
import Mathlib.Tactic.Ring

/-!
# Written numbers

Decimal literals are exact: digits and a point stand for one fraction with a power of ten below.
Main statement: digits with a point, and decimals in positional form, are written as literals that
denote exactly these numbers, and literals that denote different numbers differ as texts.
-/

namespace Adjudicator.Value

open Text Number

/-- The number that a literal denotes. -/
def DecimalLiteral.exact (x : DecimalLiteral) : ℚ :=
  digitsValue (x.numeral.whole ++ x.numeral.fraction) / 10 ^ x.numeral.fraction.length

variable {x y : DecimalLiteral} {k n places : ℕ} {s t : List Char}

/-! ## Digits -/

/-- Digits in front count by the places behind them. -/
theorem digitsValue_append (s t : List Char) :
    digitsValue (s ++ t) = digitsValue s * 10 ^ t.length + digitsValue t := by
  change Nat.ofDigitChars 10 (s ++ t) 0 = Nat.ofDigitChars 10 s 0 * 10 ^ t.length + _
  rw [Nat.ofDigitChars_append, Nat.ofDigitChars_eq_ofDigitChars_zero, Nat.mul_comm]
  rfl

/-- Zeros denote zero. -/
theorem digitsValue_replicate_zero (n : ℕ) : digitsValue (List.replicate n '0') = 0 := by
  change Nat.ofDigitChars 10 (List.replicate n '0') 0 = 0
  rw [Nat.ofDigitChars_replicate_zero, Nat.mul_zero]

/-- The digits of a whole number denote it. -/
theorem digitsValue_natChars (n : ℕ) : digitsValue (natChars n) = n := by
  change Nat.ofDigitChars 10 n.repr.toList 0 = n
  rw [Nat.toList_repr, Nat.ofDigitChars_ten_toDigits]

/-- A whole number is written in digits. -/
theorem isAsciiDigit_of_mem_natChars {c : Char} (h : c ∈ natChars n) : isAsciiDigit c = true := by
  rw [natChars, Nat.toList_repr] at h
  have hdigit := Nat.isDigit_of_mem_toDigits (by decide) (by decide) h
  rw [Char.isDigit, Bool.and_eq_true, decide_eq_true_eq, decide_eq_true_eq] at hdigit
  rw [isAsciiDigit, Bool.and_eq_true, decide_eq_true_eq, decide_eq_true_eq]
  exact hdigit

/-- A whole number has a digit. -/
theorem natChars_ne_nil (n : ℕ) : natChars n ≠ [] := by
  rw [natChars, Nat.toList_repr]
  exact Nat.toDigits_ne_nil

/-- The digits of a whole number. -/
def Digits.ofNat (n : ℕ) : Digits :=
  ⟨natChars n, natChars_ne_nil n, List.all_eq_true.mpr fun _ => isAsciiDigit_of_mem_natChars⟩

/-- A whole number as a literal. -/
def DecimalLiteral.ofNat (n : ℕ) : DecimalLiteral :=
  ⟨.ofNat n, none⟩

/-- A whole number is written in its digits. -/
theorem DecimalLiteral.ofNat_text (n : ℕ) : (ofNat n).text = natChars n :=
  List.append_nil _

/-- Digits without a fraction denote a whole number. -/
theorem DecimalLiteral.exact_mk_none (w : Digits) :
    (DecimalLiteral.mk w none).exact = digitsValue w.text := by
  change (digitsValue (w.text ++ []) : ℚ) / 10 ^ 0 = _
  rw [List.append_nil, pow_zero, div_one]

/-- A whole number as a literal denotes itself. -/
theorem DecimalLiteral.exact_ofNat (n : ℕ) : (ofNat n).exact = n := by
  rw [ofNat, exact_mk_none, Digits.ofNat, digitsValue_natChars]

/-! ## Points -/

private theorem exists_text_cut {s : List Char} (hs : ∀ c ∈ s, isAsciiDigit c = true)
    (hplaces : 0 < places) (hlen : places < s.length) :
    ∃ x : DecimalLiteral,
      x.text = s.take (s.length - places) ++ '.' :: s.drop (s.length - places) ∧
        x.exact = digitsValue s / 10 ^ places ∧ x.numeral.fraction.length = places := by
  have hdrop : (s.drop (s.length - places)).length = places := by
    rw [List.length_drop]
    omega
  let whole : Digits := ⟨s.take (s.length - places), by
    rw [Ne, List.take_eq_nil_iff]
    rintro (h | rfl)
    · omega
    · exact Nat.not_lt_zero _ hlen, List.all_eq_true.mpr fun c hc => hs c (List.mem_of_mem_take hc)⟩
  let fraction : Digits := ⟨s.drop (s.length - places), by
    rw [← List.length_pos_iff, hdrop]
    exact hplaces, List.all_eq_true.mpr fun c hc => hs c (List.mem_of_mem_drop hc)⟩
  refine ⟨⟨whole, some fraction⟩, rfl, ?_, hdrop⟩
  change (digitsValue (s.take _ ++ s.drop _) : ℚ) / 10 ^ (s.drop _).length = _
  rw [List.take_append_drop, hdrop]

/-- Digits with a point are a literal. -/
theorem exists_withPoint (places k : ℕ) :
    ∃ x : DecimalLiteral, x.text = withPoint places (natChars k) ∧ x.exact = k / 10 ^ places ∧
      x.numeral.fraction.length = places := by
  rw [withPoint]
  split
  next hzero =>
    subst hzero
    refine ⟨.ofNat k, DecimalLiteral.ofNat_text k, ?_, rfl⟩
    rw [DecimalLiteral.exact_ofNat, pow_zero, div_one]
  next hne =>
    have hdigits : ∀ c ∈ padZeros (places + 1) (natChars k), isAsciiDigit c = true := by
      intro c hc
      rcases List.mem_append.mp hc with hc | hc
      · rw [List.eq_of_mem_replicate hc]
        decide
      · exact isAsciiDigit_of_mem_natChars hc
    have hlen : places < (padZeros (places + 1) (natChars k)).length := by
      rw [padZeros, List.length_append, List.length_replicate]
      omega
    obtain ⟨x, htext, hexact, hfraction⟩ := exists_text_cut hdigits (Nat.pos_of_ne_zero hne) hlen
    refine ⟨x, htext, ?_, hfraction⟩
    rw [hexact, padZeros, digitsValue_append, digitsValue_replicate_zero, Nat.zero_mul,
      Nat.zero_add, digitsValue_natChars]

/-- A decimal in positional form is a literal behind its sign. -/
theorem exists_positional (d : Decimal) :
    ∃ x : DecimalLiteral, d.positional = withSign d.negative x.text ∧
      x.exact = d.digits * 10 ^ d.exponent := by
  rw [Decimal.positional]
  split
  next hnonneg =>
    obtain ⟨e, he⟩ := Int.eq_ofNat_of_zero_le hnonneg
    rw [he]
    split
    next hzero =>
      refine ⟨.ofNat 0, rfl, ?_⟩
      rw [DecimalLiteral.exact_ofNat, hzero, Nat.cast_zero, zero_mul]
    next hne =>
      let whole : Digits := ⟨natChars d.digits ++ List.replicate e '0',
        List.append_ne_nil_of_left_ne_nil (natChars_ne_nil _) _, List.all_eq_true.mpr fun c hc => by
          rcases List.mem_append.mp hc with hc | hc
          · exact isAsciiDigit_of_mem_natChars hc
          · rw [List.eq_of_mem_replicate hc]
            decide⟩
      refine ⟨⟨whole, none⟩, congrArg _ (List.append_nil _).symm, ?_⟩
      rw [DecimalLiteral.exact_mk_none, digitsValue_append, digitsValue_natChars,
        digitsValue_replicate_zero, List.length_replicate, zpow_natCast]
      push_cast
      rw [add_zero]
  next hneg =>
    obtain ⟨x, htext, hexact, _⟩ := exists_withPoint (-d.exponent).toNat d.digits
    refine ⟨x, by rw [htext], ?_⟩
    have hexponent : d.exponent = -((-d.exponent).toNat : ℤ) := by omega
    rw [hexact, div_eq_mul_inv, ← zpow_natCast, ← zpow_neg, ← hexponent]

/-! ## Texts -/

/-- The numeral of a literal depends on its text only. -/
theorem numeral_eq_of_text_eq (h : x.text = y.text) : x.numeral = y.numeral :=
  Option.some.inj (x.readNumeral?_text.symm.trans ((congrArg readNumeral? h).trans
    y.readNumeral?_text))

/-- The number that a literal denotes depends on its text only. -/
theorem exact_eq_of_text_eq (h : x.text = y.text) : x.exact = y.exact := by
  rw [DecimalLiteral.exact, numeral_eq_of_text_eq h, DecimalLiteral.exact]

/-- Literals behind signs that are written alike denote the same number. -/
theorem signed_exact_eq {a b : Bool} (h : withSign a x.text = withSign b y.text) :
    (if a then -x.exact else x.exact) = if b then -y.exact else y.exact := by
  have hminus : ∀ (z : DecimalLiteral) (t : List Char), z.text ≠ '-' :: t := by
    intro z t hz
    exact absurd (z.isNumberChar_of_mem (hz ▸ List.mem_cons_self)) (by decide)
  cases a <;> cases b
  · exact exact_eq_of_text_eq h
  · exact absurd h (hminus x _)
  · exact absurd h.symm (hminus y _)
  · rw [if_pos rfl, if_pos rfl, exact_eq_of_text_eq (List.cons.inj h).2]

end Adjudicator.Value
