import Adjudicator.Proofs.Number.Unsigned
import Adjudicator.Proofs.Number.Whole
import Adjudicator.Proofs.Text.Trim
import Adjudicator.Proofs.Value.Written

/-!
# Numbers with a fixed number of places

Literals are read as the doubles nearest to them, and doubles are written with a fixed number of
places. Main statement: what is written is a literal at most half of the last place away, also
without the zeros at its end.
-/

namespace Adjudicator.Value

open Text Number

variable {x : Float} {v : ℚ} {places : ℕ}

/-- The value of a literal has no sign, and with up to a hundred million places it is the double
nearest to what the literal denotes. -/
theorem DecimalLiteral.exists_unsigned_value (l : DecimalLiteral) :
    ∃ v, Unsigned l.value v ∧ (l.numeral.fraction.length ≤ 10 ^ 8 → v = nearest l.exact) := by
  have hpower : l.numeral.power - l.numeral.fraction.length =
      -((l.numeral.fraction.length : ℕ) : ℤ) := zero_sub _
  rw [DecimalLiteral.value, Numeral.value, hpower]
  exact exists_unsigned_ofDecimal _ _

/-! ## Rounded places -/

/-- A double is written as the nearest multiple of the last place. -/
theorem exists_fixed (hx : Unsigned x v) (hv : v < 2 ^ 1024) (places : ℕ) :
    ∃ k : ℕ, fixed places x = withPoint places (natChars k) ∧
      |(k : ℚ) / 10 ^ places - v| ≤ 1 / (2 * 10 ^ places) := by
  obtain ⟨d, hd, hsign, hvalue⟩ := hx.exists_dyadic hv
  have hten : (0 : ℚ) < 10 ^ places := by positivity
  have hquotient : ((d.mantissa * d.scaleUp * Nat.pow 10 places : ℕ) : ℚ) / d.scaleDown =
      v * 10 ^ places := by
    have hpow : ((Nat.pow 10 places : ℕ) : ℚ) = 10 ^ places := by
      exact_mod_cast rfl
    rw [← hvalue, d.mantissa_mul_two_zpow, Nat.cast_mul, hpow, mul_div_right_comm]
  have hround := abs_roundDiv_sub_le .even (d.mantissa * d.scaleUp * Nat.pow 10 places)
    d.scaleDown_pos
  rw [hquotient] at hround
  refine ⟨_, by rw [fixed, hd]; dsimp only; rw [hsign]; rfl, ?_⟩
  have hdifference : ∀ k : ℚ, k / 10 ^ places - v = (k - v * 10 ^ places) / 10 ^ places := by
    intro k
    rw [sub_div, mul_div_cancel_right₀ _ hten.ne']
  rw [hdifference, abs_div, abs_of_pos hten, ← div_div]
  exact div_le_div_of_nonneg_right hround hten.le

/-- What is infinite has a text of its own. -/
theorem fixed_infinite (hx : Unsigned x v) (hv : 2 ^ 1024 ≤ v) (places : ℕ) :
    fixed places x = "inf".toList := by
  have hdyadic : dyadic? x = none := Option.map_eq_none_iff.mp (hx.value?_eq_none hv)
  rw [fixed, hdyadic]
  dsimp only
  rw [specialText, hx.isNaN, hx.isNegative]
  rfl

/-! ## Zeros at the end -/

/-- A number without the zeros behind its point, but one directly behind it. -/
def shortened (s : List Char) : List Char :=
  let short := dropEndWhile (· == '0') s
  if short.getLast? = some '.' then short ++ ['0'] else short

/-- The zeros that are dropped. -/
private theorem exists_zeros (s : List Char) :
    ∃ n, s = dropEndWhile (· == '0') s ++ List.replicate n '0' := by
  have hall : ∀ c ∈ s.rtakeWhile (· == '0'), c = '0' := by
    intro c hc
    have hzero := List.mem_rtakeWhile_imp hc
    exact beq_iff_eq.mp hzero
  refine ⟨(s.rtakeWhile (· == '0')).length, ?_⟩
  rw [← List.eq_replicate_of_mem hall]
  exact List.rdropWhile_append_rtakeWhile.symm

/-- Zeros at the end of a fraction do not count. -/
private theorem digitsValue_append_zeros (w g : List Char) (n : ℕ) :
    (digitsValue (w ++ (g ++ List.replicate n '0')) : ℚ) /
        10 ^ (g ++ List.replicate n '0').length =
      digitsValue (w ++ g) / 10 ^ g.length := by
  have hn : (10 : ℚ) ^ n ≠ 0 := by positivity
  rw [← List.append_assoc, digitsValue_append, digitsValue_replicate_zero, List.length_append,
    List.length_replicate, pow_add]
  push_cast
  rw [add_zero, mul_div_mul_right _ _ hn]

/-- Behind a point all zeros at the end are dropped, or all but the first digit. -/
private theorem exists_shortened_fraction (f : Digits) :
    ∃ (f' : Digits) (g : List Char) (n k : ℕ), f.text = g ++ List.replicate n '0' ∧
      f'.text = g ++ List.replicate k '0' ∧ k ≤ n ∧
      ∀ w, shortened ((w ++ ['.']) ++ f.text) = (w ++ ['.']) ++ f'.text := by
  obtain ⟨n, hzeros⟩ := exists_zeros f.text
  have hdrop (w : List Char) : dropEndWhile (· == '0') ((w ++ ['.']) ++ f.text) =
      (w ++ ['.']) ++ dropEndWhile (· == '0') f.text :=
    dropEndWhile_append_of_last ⟨'.', List.getLast?_concat, by decide⟩ _
  generalize dropEndWhile (· == '0') f.text = g at hzeros hdrop
  rcases eq_or_ne g [] with rfl | hne
  · have hpos : 0 < n := by
      rcases Nat.eq_zero_or_pos n with rfl | hpos
      · exact absurd hzeros f.nonempty
      · exact hpos
    refine ⟨⟨['0'], by decide, by decide⟩, [], n, 1, hzeros, rfl, hpos, fun w => ?_⟩
    rw [shortened, hdrop, List.append_nil]
    exact if_pos List.getLast?_concat
  · have hmem : ∀ c ∈ g, isAsciiDigit c = true := by
      intro c hc
      refine f.isAsciiDigit_of_mem c ?_
      rw [hzeros]
      exact List.mem_append_left _ hc
    have hlast : g.getLast? ≠ some '.' := fun hpoint =>
      absurd (hmem _ (List.mem_of_getLast? hpoint)) (by decide)
    refine ⟨⟨g, hne, List.all_eq_true.mpr hmem⟩, g, n, 0, hzeros, (List.append_nil g).symm,
      Nat.zero_le n, fun w => ?_⟩
    rw [shortened, hdrop]
    exact if_neg (by rwa [List.getLast?_append_of_ne_nil _ hne])

/-- A shortened literal is a literal that denotes the same number. -/
theorem exists_shortened (l : DecimalLiteral) (hl : l.fraction ≠ none) :
    ∃ l' : DecimalLiteral, shortened l.text = l'.text ∧ l'.exact = l.exact ∧
      l'.numeral.fraction.length ≤ l.numeral.fraction.length := by
  obtain ⟨f, hf⟩ := Option.ne_none_iff_exists'.mp hl
  obtain ⟨f', g, n, k, hzeros, hzeros', hkn, hshort⟩ := exists_shortened_fraction f
  have hnumeral : l.numeral = ⟨l.whole.text, f.text, 0⟩ := by
    rw [DecimalLiteral.numeral, hf, Option.elim_some]
  have htext : l.text = (l.whole.text ++ ['.']) ++ f.text := by
    rw [DecimalLiteral.text, DecimalLiteral.tail, hf, Option.elim_some, List.append_assoc]
    rfl
  refine ⟨⟨l.whole, some f'⟩, ?_, ?_, ?_⟩
  · rw [htext, hshort]
    exact List.append_assoc _ _ _
  · rw [DecimalLiteral.exact, DecimalLiteral.exact, hnumeral]
    change (digitsValue (l.whole.text ++ f'.text) : ℚ) / 10 ^ f'.text.length =
      digitsValue (l.whole.text ++ f.text) / 10 ^ f.text.length
    rw [hzeros, hzeros', digitsValue_append_zeros, digitsValue_append_zeros]
  · rw [hnumeral]
    change f'.text.length ≤ f.text.length
    rw [hzeros, hzeros', List.length_append, List.length_append, List.length_replicate,
      List.length_replicate]
    exact Nat.add_le_add_left hkn _

/-- A double is written with at most the given places as a literal that is at most half of the last
place away. -/
theorem exists_shortened_fixed (hx : Unsigned x v) (hv : v < 2 ^ 1024) (hplaces : 0 < places) :
    ∃ (k : ℕ) (l : DecimalLiteral), fixed places x = withPoint places (natChars k) ∧
      shortened (fixed places x) = l.text ∧ l.exact = k / 10 ^ places ∧
      l.numeral.fraction.length ≤ places ∧ |l.exact - v| ≤ 1 / (2 * 10 ^ places) := by
  obtain ⟨k, hfixed, hdistance⟩ := exists_fixed hx hv places
  obtain ⟨l, htext, hexact, hlength⟩ := exists_withPoint places k
  have hfraction : l.fraction ≠ none := by
    intro hnone
    rw [DecimalLiteral.numeral, hnone] at hlength
    exact hplaces.ne hlength
  obtain ⟨l', htext', hexact', hlength'⟩ := exists_shortened l hfraction
  refine ⟨k, l', hfixed, ?_, hexact'.trans hexact, hlength'.trans_eq hlength, ?_⟩
  · rw [hfixed, ← htext, htext']
  · rw [hexact', hexact]
    exact hdistance

end Adjudicator.Value
