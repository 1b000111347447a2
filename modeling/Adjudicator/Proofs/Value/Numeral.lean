import Adjudicator.Proofs.Number.Unsigned
import Adjudicator.Proofs.Value.Grammar

/-!
# Numerals

Reading digits and points gives a number exactly when they are a numeral, so every numeral of an
expression has a value. Main statement: that value is the double nearest to the number written.
-/

namespace Adjudicator.Value

open Text Number

variable {s : List Char}

/-! ## Digits and points -/

/-- A decimal digit of any script, or a point. -/
def IsDigitOrPoint (c : Char) : Prop :=
  isDigit c = true ∨ c = '.'

instance (c : Char) : Decidable (IsDigitOrPoint c) :=
  inferInstanceAs (Decidable (isDigit c = true ∨ c = '.'))

/-- The characters of numbers are digits and points. -/
theorem isDigitOrPoint_of_isNumberChar {c : Char} (h : isNumberChar c = true) :
    IsDigitOrPoint c := by
  rw [isNumberChar, Bool.or_eq_true, beq_iff_eq] at h
  exact h.imp_left isDigit_of_isAsciiDigit

private theorem asciiLowerChar_eq {c : Char} (h : IsDigitOrPoint c) : asciiLowerChar c = c := by
  have hupper : isAsciiUpper c = false := by
    rcases h with h | rfl
    · by_contra hupper
      rw [Bool.not_eq_false, isAsciiUpper, Bool.and_eq_true, decide_eq_true_eq,
        decide_eq_true_eq] at hupper
      have hlt : c.toNat < 128 := Nat.lt_of_le_of_lt (show c.toNat ≤ 90 from hupper.2) (by decide)
      rw [isDigit, if_pos hlt, isAsciiDigit, Bool.and_eq_true, decide_eq_true_eq,
        decide_eq_true_eq] at h
      exact absurd (Char.le_trans hupper.1 h.2) (by decide)
    · decide
  rw [asciiLowerChar, hupper]
  rfl

private theorem foldEq_cons_eq_false (h : ∀ c ∈ s, IsDigitOrPoint c) {d : Char}
    (hd : ¬IsDigitOrPoint (asciiLowerChar d)) (word : List Char) :
    foldEq s (d :: word) = false := by
  rw [foldEq, beq_eq_false_iff_ne]
  intro he
  cases s with
  | nil => cases he
  | cons c rest =>
    have hc := h c List.mem_cons_self
    have hhead : asciiLowerChar c = asciiLowerChar d := (List.cons.inj he).1
    rw [asciiLowerChar_eq hc] at hhead
    exact hd (hhead ▸ hc)

/-- Digits and points have no sign and are no word. -/
theorem readFloat?_eq_of_digits (h : ∀ c ∈ s, IsDigitOrPoint c) :
    readFloat? s = (readNumeral? s).map Numeral.value := by
  have hinf : foldEq s "inf".toList = false := foldEq_cons_eq_false h (by decide) _
  have hinfinity : foldEq s "infinity".toList = false := foldEq_cons_eq_false h (by decide) _
  have hnan : foldEq s "nan".toList = false := foldEq_cons_eq_false h (by decide) _
  have hminus (rest : List Char) : s ≠ '-' :: rest := by
    rintro rfl
    exact absurd (h '-' List.mem_cons_self) (by decide)
  have hplus (rest : List Char) : s ≠ '+' :: rest := by
    rintro rfl
    exact absurd (h '+' List.mem_cons_self) (by decide)
  unfold readFloat?
  split
  next negative body hsplit =>
    split at hsplit
    · exact absurd rfl (hminus _)
    · exact absurd rfl (hplus _)
    · obtain ⟨rfl, rfl⟩ := Prod.mk.inj hsplit
      simp only [hinf, hinfinity, hnan, Bool.or_self, Bool.false_eq_true, if_false, Option.map_id']

/-- Digits and points are read as a numeral, and this as a double. -/
theorem readFloat?_eq (h : ∀ c ∈ s, isNumberChar c = true) :
    readFloat? s = (readNumeral? s).map Numeral.value :=
  readFloat?_eq_of_digits fun c hc => isDigitOrPoint_of_isNumberChar (h c hc)

/-! ## Rows of digits -/

/-- A row of digits, or two rows of digits with a point between them, of which one may be empty. -/
private inductive Rows : List Char → Prop
  | whole {digits : List Char} (hne : digits ≠ []) (h : ∀ c ∈ digits, isAsciiDigit c = true) :
      Rows digits
  | pointed {whole fraction : List Char} (hne : whole ++ fraction ≠ [])
      (hwhole : ∀ c ∈ whole, isAsciiDigit c = true)
      (hfraction : ∀ c ∈ fraction, isAsciiDigit c = true) : Rows (whole ++ '.' :: fraction)

private theorem not_mem_of_digits {t : List Char} (h : ∀ c ∈ t, isAsciiDigit c = true) :
    '.' ∉ t :=
  fun hm => absurd (h '.' hm) (by decide)

private theorem digit_of_mem_takeWhile {t : List Char} :
    ∀ c ∈ t.takeWhile isAsciiDigit, isAsciiDigit c = true :=
  List.all_eq_true.mp List.all_takeWhile

private theorem Rows.isNumeral (h : Rows s) : IsNumeral s := by
  have hnumber {t : List Char} (ht : ∀ c ∈ t, isAsciiDigit c = true) :
      ∀ c ∈ t, isNumberChar c = true := by
    intro c hc
    rw [isNumberChar, ht c hc, Bool.true_or]
  cases h with
  | whole hne h =>
    refine ⟨hnumber h, ⟨s.head hne, List.head_mem hne, h _ (List.head_mem hne)⟩, ?_⟩
    rw [List.count_eq_zero_of_not_mem (not_mem_of_digits h)]
    exact Nat.zero_le 1
  | @pointed whole fraction hne hwhole hfraction =>
    refine ⟨?_, ?_, ?_⟩
    · exact List.forall_mem_append.mpr
        ⟨hnumber hwhole, List.forall_mem_cons.mpr ⟨by decide, hnumber hfraction⟩⟩
    · obtain ⟨c, hc⟩ := List.exists_mem_of_ne_nil _ hne
      rcases List.mem_append.mp hc with hc | hc
      · exact ⟨c, List.mem_append_left _ hc, hwhole c hc⟩
      · exact ⟨c, List.mem_append_right _ (List.mem_cons_of_mem _ hc), hfraction c hc⟩
    · rw [List.count_append, List.count_cons_self,
        List.count_eq_zero_of_not_mem (not_mem_of_digits hwhole),
        List.count_eq_zero_of_not_mem (not_mem_of_digits hfraction)]

private theorem rows_of_isNumeral (h : IsNumeral s) : Rows s := by
  obtain ⟨hchars, ⟨digit, hmem, hdigit⟩, hpoints⟩ := h
  have hpoint {c : Char} (hc : c ∈ s) (hnot : isAsciiDigit c = false) : c = '.' := by
    simpa only [isNumberChar, hnot, Bool.false_or, beq_iff_eq] using hchars c hc
  cases hd : s.dropWhile isAsciiDigit with
  | nil => exact .whole (List.ne_nil_of_mem hmem) (List.dropWhile_eq_nil_iff.mp hd)
  | cons c rest =>
    have hsplit : s = s.takeWhile isAsciiDigit ++ c :: rest := by
      rw [← hd, List.takeWhile_append_dropWhile]
    have hnot : isAsciiDigit c = false := by
      simpa [hd] using List.head?_dropWhile_not isAsciiDigit s
    obtain rfl := hpoint (hsplit ▸ List.mem_append_right _ List.mem_cons_self) hnot
    have hrest : ∀ c ∈ rest, isAsciiDigit c = true := by
      intro c hc
      by_contra hnot
      have hcs : c ∈ s := hsplit ▸ List.mem_append_right _ (List.mem_cons_of_mem _ hc)
      -- A second point would be one too many.
      obtain rfl := hpoint hcs (Bool.eq_false_iff.mpr hnot)
      rw [hsplit, List.count_append, List.count_cons_self] at hpoints
      have hone : 0 < rest.count '.' := List.count_pos_iff.mpr hc
      omega
    have hne : s.takeWhile isAsciiDigit ++ rest ≠ [] := by
      rw [hsplit, List.mem_append, List.mem_cons] at hmem
      rcases hmem with hmem | rfl | hmem
      · exact List.ne_nil_of_mem (List.mem_append_left _ hmem)
      · exact absurd hdigit (by decide)
      · exact List.ne_nil_of_mem (List.mem_append_right _ hmem)
    rw [hsplit]
    exact .pointed hne digit_of_mem_takeWhile hrest

/-! ## Numerals that are read -/

/-- Digits and points that are read are rows of digits: nothing is left behind the second row, as no
letter of an exponent is there. -/
private theorem rows_of_readNumeral? (h : ∀ c ∈ s, IsDigitOrPoint c)
    (hs : (readNumeral? s).isSome = true) : Rows s := by
  have hletter {c : Char} (hc : c ∈ s) : ¬(c = 'e' ∨ c = 'E') := by
    rintro (rfl | rfl)
    · exact absurd (h _ hc) (by decide)
    · exact absurd (h _ hc) (by decide)
  rw [readNumeral?] at hs
  cases hd : s.dropWhile isAsciiDigit with
  | nil =>
    refine .whole ?_ (List.dropWhile_eq_nil_iff.mp hd)
    rintro rfl
    cases hs
  | cons c rest =>
    have hsplit : s = s.takeWhile isAsciiDigit ++ c :: rest := by
      rw [← hd, List.takeWhile_append_dropWhile]
    have hc : c ∈ s := hsplit ▸ List.mem_append_right _ List.mem_cons_self
    rw [hd] at hs
    by_cases hpoint : c = '.'
    · subst hpoint
      have hrest := (List.takeWhile_append_dropWhile (p := isAsciiDigit) (l := rest)).symm
      cases hd' : rest.dropWhile isAsciiDigit with
      | nil =>
        rw [hd', List.append_nil] at hrest
        have hne : s.takeWhile isAsciiDigit ++ rest ≠ [] := by
          intro hnil
          obtain ⟨hwhole, rfl⟩ := List.append_eq_nil_iff.mp hnil
          simp [hwhole] at hs
        rw [hsplit]
        exact .pointed hne digit_of_mem_takeWhile (List.dropWhile_eq_nil_iff.mp hd')
      | cons c' rest' =>
        have hc' : c' ∈ s := by
          rw [hsplit, hrest, hd']
          simp
        simp only [hd', hletter hc', if_false] at hs
        split at hs <;> cases hs
    · split at hs
      next fraction after hparts =>
        split at hparts
        · exact absurd (List.cons.inj ‹_›).1 hpoint
        · obtain ⟨rfl, rfl⟩ := Prod.mk.inj hparts
          simp only [hletter hc, if_false] at hs
          split at hs <;> cases hs

/-- How many characters stand behind the point. -/
def places (s : List Char) : ℕ :=
  ((s.dropWhile (· != '.')).drop 1).length

/-- The number that digits with at most one point denote. -/
def written (s : List Char) : ℚ :=
  digitsValue (s.filter isAsciiDigit) / 10 ^ places s

private theorem ne_point_of_digits {t : List Char} (h : ∀ c ∈ t, isAsciiDigit c = true) :
    ∀ c ∈ t, (c != '.') = true := by
  intro c hc
  rw [bne_iff_ne]
  rintro rfl
  exact not_mem_of_digits h hc

/-- Rows of digits are read as they stand, and no digit is lost. -/
private theorem Rows.exists_readNumeral?_eq (h : Rows s) :
    ∃ whole fraction, readNumeral? s = some ⟨whole, fraction, 0⟩ ∧
      whole ++ fraction = s.filter isAsciiDigit ∧ fraction.length = places s := by
  cases h with
  | whole hne h =>
    have hempty : s.isEmpty = false := List.isEmpty_eq_false_iff.mpr hne
    refine ⟨s, [], ?_, ?_, ?_⟩
    · simp only [readNumeral?, List.takeWhile_eq_self_iff.mpr h, List.dropWhile_eq_nil_iff.mpr h,
        hempty, Bool.false_and, Bool.false_eq_true, if_false]
    · rw [List.append_nil, List.filter_eq_self.mpr h]
    · rw [places, List.dropWhile_eq_nil_iff.mpr (ne_point_of_digits h)]
      rfl
  | @pointed whole fraction hne hwhole hfraction =>
    have htake : (whole ++ '.' :: fraction).takeWhile isAsciiDigit = whole := by
      rw [List.takeWhile_append_of_pos hwhole, List.takeWhile_cons_of_neg (by decide),
        List.append_nil]
    have hdrop : (whole ++ '.' :: fraction).dropWhile isAsciiDigit = '.' :: fraction := by
      rw [List.dropWhile_append_of_pos hwhole, List.dropWhile_cons_of_neg (by decide)]
    have hempty : (whole.isEmpty && fraction.isEmpty) = false := by
      rwa [Bool.eq_false_iff, Ne, Bool.and_eq_true, List.isEmpty_iff, List.isEmpty_iff,
        ← List.append_eq_nil_iff]
    refine ⟨whole, fraction, ?_, ?_, ?_⟩
    · simp only [readNumeral?, htake, hdrop, List.takeWhile_eq_self_iff.mpr hfraction,
        List.dropWhile_eq_nil_iff.mpr hfraction, hempty, Bool.false_eq_true, if_false]
    · rw [List.filter_append, List.filter_cons_of_neg (by decide),
        List.filter_eq_self.mpr hwhole, List.filter_eq_self.mpr hfraction]
    · rw [places, List.dropWhile_append_of_pos (ne_point_of_digits hwhole),
        List.dropWhile_cons_of_neg (by decide)]
      rfl

/-- Digits and points that can be read are those of ASCII. -/
theorem isNumberChar_of_readFloat? (h : ∀ c ∈ s, IsDigitOrPoint c)
    (hs : (readFloat? s).isSome = true) : ∀ c ∈ s, isNumberChar c = true := by
  rw [readFloat?_eq_of_digits h, Option.isSome_map] at hs
  exact (rows_of_readNumeral? h hs).isNumeral.1

/-- Digits and points have a value exactly when they are a numeral. -/
theorem isSome_readFloat?_iff (h : ∀ c ∈ s, isNumberChar c = true) :
    (readFloat? s).isSome = true ↔ IsNumeral s := by
  rw [readFloat?_eq h, Option.isSome_map]
  constructor
  · exact fun hs => (rows_of_readNumeral? (fun c hc =>
      isDigitOrPoint_of_isNumberChar (h c hc)) hs).isNumeral
  · intro hs
    obtain ⟨_, _, hread, _⟩ := (rows_of_isNumeral hs).exists_readNumeral?_eq
    rw [hread]
    rfl

/-- The value of a numeral has no sign, and it is the double nearest to the number written, up to a
hundred million characters. -/
theorem exists_unsigned_numeral (hs : IsNumeral s) :
    ∃ v, Unsigned (Expression.value (.numeral s)) v ∧
      (s.length ≤ 10 ^ 8 → v = nearest (written s)) := by
  obtain ⟨whole, fraction, hread, hdigits, hplaces⟩ := (rows_of_isNumeral hs).exists_readNumeral?_eq
  obtain ⟨v, hv, hnearest⟩ :=
    exists_unsigned_ofDecimal (digitsValue (whole ++ fraction)) fraction.length
  have hvalue : Expression.value (.numeral s) =
      ofDecimal (digitsValue (whole ++ fraction)) (-(fraction.length : ℤ)) := by
    rw [Expression.value, readFloat?_eq hs.1, hread, ← zero_sub]
    rfl
  refine ⟨v, hvalue ▸ hv, fun hlength => ?_⟩
  have hle : places s ≤ s.length := by
    rw [places, List.length_drop]
    exact (Nat.sub_le _ _).trans (List.length_dropWhile_le _ _)
  rw [hnearest (by omega), hdigits, hplaces, written]

end Adjudicator.Value
