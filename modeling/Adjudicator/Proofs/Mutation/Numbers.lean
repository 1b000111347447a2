import Adjudicator.Proofs.Mutation.Edits
import Adjudicator.Proofs.Value.Places

/-!
# Changed numbers

A literal of a line is made a tenth larger and smaller, and the changed number is written in its
place. Main statement: what is written denotes the changed number up to half of the fourth place
when it fits the word or is finite, and it differs from the literal except for the largest number of
a word and for fractions below 0.0006.
-/

namespace Adjudicator.Mutation

open Text Number Value

/-- The factors of changes. -/
def factors : List Float :=
  [1.1, 0.9]

/-- The number that a whole number too large for a word is written as. -/
def largestWord : List Char :=
  "9223372036854775807".toList

/-- How a changed number is written: a whole number as far as the word reaches, and a fraction with
at most four places. -/
inductive Written (whole : Bool) (x : Float) : List Char → Prop
  | whole {n : ℕ} (hwhole : whole = true) (hx : value? x = some (n : ℚ)) (hn : n < 2 ^ 63) :
      Written whole x (natChars n)
  | large {v : ℚ} (hwhole : whole = true) (hx : Unsigned x v) (hv : 2 ^ 63 ≤ v) :
      Written whole x largestWord
  | fraction {v : ℚ} {l : DecimalLiteral} (hwhole : whole = false) (hx : value? x = some v)
      (hplaces : l.numeral.fraction.length ≤ 4) (hl : |l.exact - v| ≤ 1 / 20000) :
      Written whole x l.text
  | infinite {v : ℚ} (hwhole : whole = false) (hx : Unsigned x v) (hv : 2 ^ 1024 ≤ v) :
      Written whole x "inf".toList

variable {x c : Float} {e u v w : ℚ} {l : DecimalLiteral}

/-! ## Scaled numbers -/

/-- The value of a factor. -/
private def IsWeight (w : ℚ) : Prop :=
  w = 2476979795053773 / 2251799813685248 ∨ w = 8106479329266893 / 9007199254740992

private theorem exists_weight (hc : c ∈ factors) : ∃ w, value? c = some w ∧ IsWeight w := by
  have hup : value? 1.1 = some (2476979795053773 / 2251799813685248) := by decide +kernel
  have hdown : value? 0.9 = some (8106479329266893 / 9007199254740992) := by decide +kernel
  simp only [factors, List.mem_cons, List.not_mem_nil, or_false] at hc
  rcases hc with rfl | rfl
  · exact ⟨_, hup, .inl rfl⟩
  · exact ⟨_, hdown, .inr rfl⟩

private theorem IsWeight.bounds (hw : IsWeight w) : 4 / 5 < w ∧ w < 6 / 5 := by
  rcases hw with rfl | rfl <;> norm_num

/-- Rounding does not hide a tenth of a number. -/
private theorem IsWeight.far (hw : IsWeight w) (he : 6 / 10000 ≤ e) :
    999 / 10000 * e ≤ |nearest (nearest e * w) - e| := by
  have hsmall : (2 : ℚ) ^ (-1022 : ℤ) ≤ 1 / 10000 := by
    calc
      (2 : ℚ) ^ (-1022 : ℤ) ≤ 2 ^ (-14 : ℤ) := zpow_le_zpow_right₀ one_le_two (by decide)
      _ ≤ 1 / 10000 := by norm_num
  have hv := abs_nearest_sub_le_div (x := e) (by linarith)
  rw [abs_le] at hv
  have hlow : 1 / 10000 ≤ nearest e * w := by
    have hhalf : e / 2 ≤ nearest e := by linarith
    nlinarith [hw.bounds.1]
  have hu := abs_nearest_sub_le_div (x := nearest e * w) (hsmall.trans hlow)
  rw [abs_le] at hu
  rw [le_abs]
  rcases hw with rfl | rfl
  · left
    linarith
  · right
    linarith

/-- A scaled number is the double nearest to it, or stays infinite. -/
private theorem exists_scaled (hx : Unsigned x v) (hw : value? c = some w) (hweight : IsWeight w) :
    ∃ u, Unsigned (x * c) u ∧ (u < 2 ^ 1024 → v < 2 ^ 1024 ∧ u = nearest (v * w)) := by
  have hpos : 0 < w := (by norm_num : (0 : ℚ) < 4 / 5).trans hweight.bounds.1
  have hc := Unsigned.of_value? hw hpos
  have hsmall : w < 2 ^ 1024 := (le_abs_self w).trans_lt (abs_value_lt hw)
  rcases lt_or_ge v (2 ^ 1024) with hv | hv
  · exact ⟨_, hx.mul hc hv hsmall, fun _ => ⟨hv, rfl⟩⟩
  · exact ⟨v, hx.infinite_mul hc hv hpos hsmall, fun h => absurd h (not_lt.mpr hv)⟩

/-! ## Fractions -/

private theorem literal_fraction (x : Float) : literal x false = shortened (fixed 4 x) :=
  rfl

/-- The texts that a change of a fraction can leave as they are. -/
def lostFractions : List (List Char) :=
  ["0.0001", "0.0002", "0.0003", "0.0004", "0.0005"].map String.toList

private theorem value_beq_zero (hx : value? x = some 0) : (x == 0.0) = true :=
  (beq_iff hx value?_zero).mpr rfl

/-- Only a few of the smallest decimals are as near to a changed number as to themselves. -/
private theorem units_bounds {k : ℕ} (hv : Unsigned l.value (nearest l.exact))
    (hzero : (l.value == 0.0) = false) (hweight : IsWeight w) (he : l.exact = k / 10 ^ 4)
    (h : |l.exact - nearest (nearest l.exact * w)| ≤ 1 / 20000) : 0 < k ∧ k ≤ 5 := by
  constructor
  · rw [Nat.pos_iff_ne_zero]
    rintro rfl
    rw [he, Nat.cast_zero, zero_div, nearest_zero] at hv
    rw [value_beq_zero (hv.value? (by positivity))] at hzero
    cases hzero
  · by_contra hgt
    have hsix : (6 : ℚ) ≤ k := by exact_mod_cast not_le.mp hgt
    have hlow : 6 / 10000 ≤ l.exact := by
      rw [he]
      linarith
    have hfar := hweight.far hlow
    rw [abs_sub_comm] at hfar
    linarith

private theorem shortened_mem_lostFractions {k : ℕ} (hpos : 0 < k) (hk : k ≤ 5) :
    shortened (withPoint 4 (natChars k)) ∈ lostFractions := by
  interval_cases k <;> decide

/-- A changed fraction is written up to half of the fourth place, and unless it is tiny its text
differs from the literal. -/
private theorem written_fraction (hzero : (l.value == 0.0) = false)
    (hc : c ∈ factors) :
    Written false (nudged l.value c false) (literal (nudged l.value c false) false) ∧
      (literal (nudged l.value c false) false = l.text → l.text ∈ lostFractions) := by
  obtain ⟨w, hw, hweight⟩ := exists_weight hc
  obtain ⟨v, hv, hnearest⟩ := l.exists_unsigned_value
  obtain ⟨u, hu, hfinite⟩ := exists_scaled hv hw hweight
  have hnudged : nudged l.value c false = l.value * c := rfl
  rw [hnudged, literal_fraction]
  rcases lt_or_ge u (2 ^ 1024) with hlt | hge
  · obtain ⟨k, l', hfixed, htext, hexact, hplaces, hdistance⟩ :=
      exists_shortened_fixed hu hlt (show 0 < 4 by decide)
    have hhalf : (1 : ℚ) / (2 * 10 ^ 4) = 1 / 20000 := by norm_num
    rw [hhalf] at hdistance
    refine ⟨htext ▸ .fraction rfl (hu.value? hlt) hplaces hdistance, fun hsame => ?_⟩
    -- the literal is the text of the changed number, so it has no more places
    have hl' : l'.text = l.text := htext.symm.trans hsame
    have hsmall : l.numeral.fraction.length ≤ 10 ^ 8 := by
      rw [← numeral_eq_of_text_eq hl']
      exact hplaces.trans (by decide)
    rw [exact_eq_of_text_eq hl'] at hexact hdistance
    obtain ⟨-, rfl⟩ := hfinite hlt
    obtain rfl := hnearest hsmall
    obtain ⟨hpos, hfive⟩ := units_bounds hv hzero hweight hexact hdistance
    rw [← hsame, hfixed]
    exact shortened_mem_lostFractions hpos hfive
  · rw [fixed_infinite hu hge]
    refine ⟨.infinite rfl hu hge, fun hsame => ?_⟩
    have hletter : 'i' ∈ l.text := by
      rw [← hsame]
      decide
    exact absurd (l.isNumberChar_of_mem hletter) (by decide)

/-! ## Whole numbers -/

private theorem nudged_whole (x c : Float) :
    nudged x c true =
      if round (x * c) != x then round (x * c) else if 1.0 < c then x + 1.0 else x - 1.0 :=
  rfl

/-- A number is written as a whole number, and its text differs from a literal unless that is the
largest number of a word. -/
private def Moves (l : DecimalLiteral) (x : Float) : Prop :=
  Written true x (literal x true) ∧ (literal x true = l.text → l.text = largestWord)

private theorem moves_of_large (hx : Unsigned x v) (hv : 2 ^ 63 ≤ v)
    (hword : toSigned64 x = 2 ^ 63 - 1) : Moves l x := by
  have hliteral : literal x true = largestWord := by
    rw [literal, if_pos rfl, hword]
    decide
  rw [Moves, hliteral]
  exact ⟨.large rfl hx hv, fun hsame => hsame.symm⟩

/-- What is infinite is written as the largest number of a word. -/
private theorem moves_of_infinite (hx : Unsigned x v) (hv : 2 ^ 1024 ≤ v) : Moves l x := by
  have hlarge : (2 : ℚ) ^ 63 ≤ 2 ^ 1024 := pow_le_pow_right₀ one_le_two (by decide)
  exact moves_of_large hx (hlarge.trans hv) (hx.infinite_whole hv).2

/-- A natural number is written as it is, as far as the word reaches. -/
private theorem moves_of_ne {n : ℕ} (hx : value? x = some (n : ℚ)) (hne : l.exact ≠ n) :
    Moves l x := by
  have hword : toSigned64 x = max (-2 ^ 63) (min (2 ^ 63 - 1) (n : ℤ)) :=
    toSigned64_eq (by rwa [Int.cast_natCast])
  rcases lt_or_ge n (2 ^ 63) with hlt | hge
  · have hcut : max (-2 ^ 63) (min (2 ^ 63 - 1) (n : ℤ)) = n := by omega
    have hliteral : literal x true = natChars n := by
      rw [literal, if_pos rfl, hword, hcut]
      rfl
    rw [Moves, hliteral]
    refine ⟨.whole rfl hx hlt, fun hsame => absurd ?_ hne⟩
    rw [← exact_eq_of_text_eq ((DecimalLiteral.ofNat_text n).trans hsame),
      DecimalLiteral.exact_ofNat]
  · have hcut : max (-2 ^ 63) (min (2 ^ 63 - 1) (n : ℤ)) = 2 ^ 63 - 1 := by omega
    have hlarge : (2 : ℚ) ^ 63 ≤ n := by exact_mod_cast hge
    have hpos : (0 : ℚ) < n := (by positivity : (0 : ℚ) < 2 ^ 63).trans_le hlarge
    exact moves_of_large (.of_value? hx hpos) hlarge (hword.trans hcut)

private theorem exists_natCast_round (hx : Unsigned x v) (hv : v < 2 ^ 1024) :
    ∃ n : ℕ, value? (round x) = some (n : ℚ) ∧ |(n : ℚ) - v| ≤ 1 / 2 := by
  obtain ⟨n, hn, hdistance⟩ := exists_value?_round (hx.value? hv)
  have hnonneg : 0 ≤ n := by
    have hlow := (abs_le.mp hdistance).1
    have hv' := hx.nonneg
    have hgt : (-1 : ℚ) < n := by linarith
    have hgt' : (-1 : ℤ) < n := by exact_mod_cast hgt
    omega
  lift n to ℕ using hnonneg
  exact ⟨n, hn, hdistance⟩

private theorem rounded_natCast {n : ℕ} (hn : n < 2 ^ 53) :
    rounded (n : ℚ) = n ∧ |rounded (n : ℚ)| < 2 ^ 1024 := by
  have hrounded : rounded (n : ℚ) = n := by
    rw [rounded_of_nonneg (Nat.cast_nonneg n), nearest_natCast hn]
  refine ⟨hrounded, ?_⟩
  rw [hrounded, Nat.abs_cast]
  calc
    (n : ℚ) < 2 ^ 53 := by exact_mod_cast hn
    _ ≤ 2 ^ 1024 := pow_le_pow_right₀ one_le_two (by decide)

/-- One more and one less than a small whole number are exact. -/
private theorem value?_add_sub_one {n : ℕ} (hx : value? x = some (n : ℚ)) (hn : n + 1 < 2 ^ 53)
    (hpos : 0 < n) :
    value? (x + 1.0) = some ((n + 1 : ℕ) : ℚ) ∧ value? (x - 1.0) = some ((n - 1 : ℕ) : ℚ) := by
  have hadd : (n : ℚ) + 1 = (n + 1 : ℕ) := by
    rw [Nat.cast_add, Nat.cast_one]
  have hsub : (n : ℚ) - 1 = (n - 1 : ℕ) := by
    rw [Nat.cast_sub hpos, Nat.cast_one]
  obtain ⟨hup, hup'⟩ := rounded_natCast hn
  obtain ⟨hdown, hdown'⟩ := rounded_natCast ((Nat.sub_le n 1).trans_lt (Nat.lt_of_succ_lt hn))
  rw [← hadd] at hup hup'
  rw [← hsub] at hdown hdown'
  constructor
  · rw [value?_add hx value?_one hup', hup, hadd]
  · rw [value?_sub hx value?_one hdown', hdown, hsub]

/-- Only a few of the smallest whole numbers are as near to a scaled number as to themselves. -/
private theorem natCast_le_five {n : ℕ} (hweight : IsWeight w)
    (h : |(n : ℚ) - nearest (nearest n * w)| ≤ 1 / 2) : n ≤ 5 := by
  by_contra hgt
  have hsix : (6 : ℚ) ≤ n := by exact_mod_cast not_le.mp hgt
  have hfar := hweight.far (e := n) (by linarith)
  rw [abs_sub_comm] at hfar
  linarith

/-- A literal that is rounded back to itself moves to a neighbour. -/
private theorem moves_of_round_eq {n : ℕ} (hx : value? l.value = some (n : ℚ))
    (hl : (n : ℚ) = nearest l.exact) (hpos : 0 < n) (hn : n ≤ 5) :
    Moves l (l.value + 1.0) ∧ Moves l (l.value - 1.0) := by
  -- a literal of a neighbour is read as the neighbour
  have hne {k : ℕ} (hk : k < 2 ^ 53) (hkn : k ≠ n) : l.exact ≠ k := by
    intro hexact
    rw [hexact, nearest_natCast hk] at hl
    exact hkn (Nat.cast_injective hl).symm
  obtain ⟨hadd, hsub⟩ := value?_add_sub_one hx (by omega) hpos
  exact ⟨moves_of_ne hadd (hne (by omega) (by omega)),
    moves_of_ne hsub (hne (by omega) (by omega))⟩

/-- A finite literal is rounded to another number or moves by one. -/
private theorem moves_of_finite (hv : Unsigned l.value v) (hv' : v < 2 ^ 1024)
    (hl : v = nearest l.exact) (hu : Unsigned (l.value * c) (nearest (v * w)))
    (hu' : nearest (v * w) < 2 ^ 1024) (hweight : IsWeight w)
    (hzero : (l.value == 0.0) = false) : Moves l (nudged l.value c true) := by
  have hvalue := hv.value? hv'
  obtain ⟨n, hn, hdistance⟩ := exists_natCast_round hu hu'
  rw [nudged_whole]
  by_cases hmoved : (round (l.value * c) != l.value) = true
  · rw [if_pos hmoved]
    refine moves_of_ne hn fun hexact => ?_
    rw [hl, hexact] at hdistance
    have hsmall := natCast_le_five hweight hdistance
    have hsame : v = n := by rw [hl, hexact, nearest_natCast (by omega)]
    rw [bne, (beq_iff hn hvalue).mpr hsame.symm] at hmoved
    cases hmoved
  · rw [if_neg hmoved]
    rw [bne, Bool.not_eq_true', Bool.not_eq_false] at hmoved
    obtain rfl : (n : ℚ) = v := (beq_iff hn hvalue).mp hmoved
    have hsmall : n ≤ 5 := natCast_le_five hweight (by rwa [(hv.denotes hv').nearest_eq])
    have hpos : 0 < n := by
      rw [Nat.pos_iff_ne_zero]
      rintro rfl
      rw [value_beq_zero (by rwa [Nat.cast_zero] at hvalue)] at hzero
      cases hzero
    obtain ⟨hadd, hsub⟩ := moves_of_round_eq hvalue hl hpos hsmall
    split
    · exact hadd
    · exact hsub

/-- An infinite product is no other number after rounding. -/
private theorem moves_of_infinite_product (hv : Unsigned l.value v) (hu : Unsigned (l.value * c) u)
    (hge : 2 ^ 1024 ≤ u) : Moves l (nudged l.value c true) := by
  rw [nudged_whole, (hu.infinite_whole hge).1]
  by_cases hmoved : (l.value * c != l.value) = true
  · rw [if_pos hmoved]
    exact moves_of_infinite hu hge
  · rw [if_neg hmoved]
    have hge' : 2 ^ 1024 ≤ v := by
      by_contra hlt
      rw [bne, hu.infinite_beq hv hge (not_le.mp hlt)] at hmoved
      exact hmoved rfl
    obtain ⟨hadd, hsub⟩ := hv.infinite_add_sub (.of_value? value?_one one_pos) hge'
      (one_lt_pow₀ one_lt_two (by decide))
    split
    · exact moves_of_infinite hadd hge'
    · exact moves_of_infinite hsub hge'

/-- A changed whole number is written as it is, as far as the word reaches, and its text differs
from the literal unless that is the largest number of a word. -/
private theorem moves_whole (hl : l.fraction = none) (hzero : (l.value == 0.0) = false)
    (hc : c ∈ factors) : Moves l (nudged l.value c true) := by
  obtain ⟨w, hw, hweight⟩ := exists_weight hc
  obtain ⟨v, hv, hnearest⟩ := l.exists_unsigned_value
  obtain ⟨u, hu, hfinite⟩ := exists_scaled hv hw hweight
  rcases lt_or_ge u (2 ^ 1024) with hlt | hge
  · obtain ⟨hv', rfl⟩ := hfinite hlt
    have hplaces : l.numeral.fraction.length ≤ 10 ^ 8 := by
      rw [DecimalLiteral.numeral, hl]
      exact Nat.zero_le _
    exact moves_of_finite hv hv' (hnearest hplaces) hu hlt hweight hzero
  · exact moves_of_infinite_product hv hu hge

/-! ## Lines -/

/-- A mutation writes another number in the place of a literal of a line. -/
structure Renumbers (line : List Char) (m : Mutation) (before : List Char) (x : DecimalLiteral)
    (new after : List Char) (change : NumberChange) : Prop where
  /-- The literal stands in the line. -/
  standsIn : StandsIn line before x after
  /-- The code is the line, trimmed. -/
  code_eq : m.code = trim line
  /-- The text of the changed number stands in its place. -/
  mutated_eq : m.mutated = trim (before ++ new ++ after)
  /-- The mutation has both numbers. -/
  change_eq : m.change = some change
  /-- The old number is the one that the literal is read as. -/
  old_eq : readFloat? x.text = some change.old
  /-- It is the double nearest to the literal. -/
  old_nearest : x.numeral.fraction.length ≤ 10 ^ 8 → Unsigned change.old (nearest x.exact)
  /-- The text in its place is the changed number. -/
  written : Written x.fraction.isNone change.new new
  /-- Nothing is lost, but for the largest number of a word and the smallest fractions. -/
  moved : m.mutated = m.code → x.text = largestWord ∨ x.text ∈ lostFractions

/-- The changed numbers of a literal. -/
private theorem written_nudged (hzero : (l.value == 0.0) = false) (hc : c ∈ factors) :
    Written l.fraction.isNone (nudged l.value c l.fraction.isNone)
        (literal (nudged l.value c l.fraction.isNone) l.fraction.isNone) ∧
      (literal (nudged l.value c l.fraction.isNone) l.fraction.isNone = l.text →
        l.text = largestWord ∨ l.text ∈ lostFractions) := by
  cases hl : l.fraction with
  | none => exact (moves_whole hl hzero hc).imp_right fun h hsame => .inl (h hsame)
  | some => exact (written_fraction hzero hc).imp_right fun h hsame => .inr (h hsame)

/-- What is written is not blank. -/
private theorem Written.not_blank {whole : Bool} {s : List Char} (h : Written whole x s) :
    s ≠ [] ∧ ∀ d ∈ s, isBlank d = false := by
  cases h with
  | @whole n =>
    rw [← DecimalLiteral.ofNat_text n]
    exact ⟨DecimalLiteral.text_ne_nil _, fun _ => DecimalLiteral.isBlank_of_mem _⟩
  | large =>
    have hdigits : largestWord = natChars (2 ^ 63 - 1) := by decide
    rw [hdigits, ← DecimalLiteral.ofNat_text]
    exact ⟨DecimalLiteral.text_ne_nil _, fun _ => DecimalLiteral.isBlank_of_mem _⟩
  | @fraction _ l => exact ⟨l.text_ne_nil, fun _ => l.isBlank_of_mem⟩
  | infinite => exact ⟨by decide, List.all_iff_forall_prop.mp (by decide)⟩

/-- A line that is the same with another text in the place of a literal has the same text there. -/
private theorem eq_of_trim_eq {new before after : List Char} {whole : Bool}
    (h : Written whole x new)
    (hsame : trim (before ++ new ++ after) = trim (before ++ l.text ++ after)) : new = l.text := by
  obtain ⟨hne, hnew⟩ := h.not_blank
  rw [trim_append_append hne hnew,
    trim_append_append l.text_ne_nil fun _ => l.isBlank_of_mem] at hsame
  exact List.append_cancel_left (List.append_cancel_right hsame)

variable {line : List Char} {number : Nat} {m : Mutation}

/-- A change of a number of a line. -/
private theorem exists_renumbers_of_mem_numbers
    (h : m ∈ Subject.numbers ⟨line, mask line, number⟩) :
    m.line = number ∧ ∃ before x new after change, Renumbers line m before x new after change := by
  obtain ⟨found, hfound, hm⟩ := List.mem_flatMap.mp h
  rw [Subject.numberChanges] at hm
  cases hvalue : readFloat? (found.group 1) with
  | none =>
    rw [hvalue] at hm
    cases hspan : found.span? 1 <;> rw [hspan] at hm <;> cases hm
  | some value =>
    obtain ⟨before, l, after, start, stop, hspan, hgroup, hunmasked, hstands⟩ :=
      exists_standsIn hfound (by rw [hvalue, Option.isSome_some])
    rw [hspan, hgroup, l.readFloat?_text] at hm
    dsimp only at hm
    split at hm
    · cases hm
    next hguard =>
      rw [Bool.or_eq_true, not_or, Bool.not_eq_true] at hguard
      obtain ⟨⟨factor, label⟩, hfactor, rfl⟩ := List.mem_map.mp hm
      obtain ⟨hwritten, hmoved⟩ :=
        written_nudged hguard.1 (List.mem_map_of_mem (f := Prod.fst) hfactor)
      dsimp only
      rw [l.not_contains_point]
      refine ⟨rfl, before, l, _, after, _, hstands, rfl, mutated_edit hunmasked.toAligned, rfl,
        l.readFloat?_text, ?_, hwritten, ?_⟩
      · intro hplaces
        obtain ⟨v, hv, hnearest⟩ := l.exists_unsigned_value
        rwa [← hnearest hplaces]
      · rw [mutated_edit hunmasked.toAligned]
        intro hsame
        exact hmoved (eq_of_trim_eq hwritten (hsame.trans (congrArg trim hstands.line_eq)))

/-- Only the pass over the numbers of a line changes numbers. -/
private theorem mem_numbers_of_mem_ofLine (h : m ∈ ofLine line number)
    (hkind : m.kind = .number) : m ∈ Subject.numbers ⟨line, mask line, number⟩ := by
  rw [ofLine] at h
  split at h
  · cases h
  simp only [List.mem_append] at h
  rcases h with (((h | h) | h) | h) | h
  · exact h
  · obtain ⟨⟨index, operator⟩, -, hm⟩ := List.mem_filterMap.mp h
    obtain ⟨⟨other, kind⟩, hother, rfl⟩ := Option.map_eq_some_iff.mp hm
    obtain rfl : kind = .number := hkind
    rcases kind_of_partner? hother with hkind | hkind <;> cases hkind
  · rw [Subject.truths] at h
    split at h
    · cases h
    · obtain ⟨found, -, rfl⟩ := List.mem_map.mp h
      cases hkind
  · rw [Subject.results] at h
    split at h
    · split at h
      · obtain rfl := List.mem_singleton.mp h
        cases hkind
      · cases h
    · cases h
  · rw [Subject.conditions] at h
    split at h
    · dsimp only at h
      split at h
      · cases h
      · obtain rfl := List.mem_singleton.mp h
        cases hkind
    · cases h

/-- Every change of a number of a body writes another number in the place of a literal of a line. A
fraction is left out of the literal only when it runs into a word or when it follows another one.
The old number is the literal's, and what is written is the new number: the whole number as far as
the word reaches, or with an error of at most half of the fourth place. The line is another one,
unless the literal is the largest number of a word or a fraction below 0.0006. -/
theorem numbers_change_in_place (body : List Char) (first : Nat) (m : Mutation)
    (hm : m ∈ ofBody body first) (hkind : m.kind = .number) :
    ∃ k line, (lines body)[k]? = some line ∧ m.line = first + k ∧
      ∃ before x new after change, Renumbers line m before x new after change := by
  obtain ⟨⟨line, number⟩, hline, hm⟩ := List.mem_flatMap.mp hm
  obtain ⟨hfirst, hline⟩ := List.mk_mem_zipIdx_iff_le_and_getElem?_sub.mp hline
  obtain ⟨hnumber, hchange⟩ :=
    exists_renumbers_of_mem_numbers (mem_numbers_of_mem_ofLine hm hkind)
  refine ⟨number - first, line, hline, ?_, hchange⟩
  rw [hnumber, Nat.add_sub_cancel' hfirst]

/-- A change of a fraction. -/
theorem fraction_changes_in_place :
    ∃ m ∈ ofBody "double rate = 2.5;".toList 1, m.kind = .number ∧
      m.mutated = "double rate = 2.75;".toList ∧
      ∃ k line, (lines "double rate = 2.5;".toList)[k]? = some line ∧ m.line = 1 + k ∧
        ∃ before x new after change, Renumbers line m before x new after change := by
  have hchange : ∃ m ∈ ofBody "double rate = 2.5;".toList 1, m.kind = .number ∧
      m.mutated = "double rate = 2.75;".toList := by
    decide
  obtain ⟨m, hm, hkind, hmutated⟩ := hchange
  exact ⟨m, hm, hkind, hmutated, numbers_change_in_place _ 1 m hm hkind⟩

/-- A fraction with a suffix is cut at its point, the smallest fractions are written as they were,
and a number too large for a word is written as another one. -/
theorem changes_can_be_lost :
    (∃ m ∈ ofBody "double rate = 2.5f;".toList 1, m.kind = .number ∧
      m.code = "double rate = 2.5f;".toList ∧ m.mutated = "double rate = 3.5f;".toList ∧
      (m.change.bind fun change => value? change.old) = some 2) ∧
    (∃ m ∈ ofBody "double rate = 0.0004;".toList 1, m.kind = .number ∧ m.mutated = m.code) ∧
    (∃ m ∈ ofBody "limit = 99999999999999999999".toList 1, m.kind = .number ∧
      m.mutated = "limit = 9223372036854775807".toList ∧
      (m.change.bind fun change => value? change.new) = some 110000000000000016384) := by
  decide +kernel

end Adjudicator.Mutation
