import Adjudicator.Proofs.Pattern.Offers
import Adjudicator.Proofs.Text.Trim
import Adjudicator.Proofs.Value.Numeral
import Adjudicator.Value.Literal
import Mathlib.Data.Bool.AllAny
import Mathlib.Tactic.FinCases
import Mathlib.Tactic.IntervalCases

/-!
# Decimal literals

A decimal literal is one or more digits with an optional fraction, and a suffix may give it a type.
Patterns of numbers choose it as a whole. Main statement: as the value of an assertion it is read as
the number that it denotes, whatever its suffix is.
-/

namespace Adjudicator.Value

open Text Number Pattern

/-- One or more decimal digits. -/
structure Digits where
  /-- The digits. -/
  text : List Char
  nonempty : text ≠ []
  digits : text.all isAsciiDigit = true

/-- Digits with an optional fraction. -/
structure DecimalLiteral where
  /-- The digits before the point. -/
  whole : Digits
  /-- The digits behind the point. -/
  fraction : Option Digits

namespace DecimalLiteral

/-- The point and the digits behind it. -/
def tail (x : DecimalLiteral) : List Char :=
  x.fraction.elim [] fun f => '.' :: f.text

/-- How a literal is written. -/
def text (x : DecimalLiteral) : List Char :=
  x.whole.text ++ x.tail

/-- The numeral that a literal is. -/
def numeral (x : DecimalLiteral) : Numeral :=
  ⟨x.whole.text, x.fraction.elim [] Digits.text, 0⟩

/-- The double nearest to a literal. -/
def value (x : DecimalLiteral) : Float :=
  x.numeral.value

/-- A literal without its fraction. -/
def truncated (x : DecimalLiteral) : DecimalLiteral :=
  { x with fraction := none }

end DecimalLiteral

/-- Nothing, or a point with digits of any script behind it. -/
def IsFraction (tail : List Char) : Prop :=
  tail = [] ∨ ∃ f, f ≠ [] ∧ (∀ c ∈ f, isDigit c = true) ∧ tail = '.' :: f

/-- The suffixes that give a literal its type. -/
def typeSuffixes : List (List Char) :=
  ["f", "F", "d", "D", "m", "M", "l", "L", "f32", "f64", "i8", "i16", "i32", "i64", "u8", "u16",
    "u32", "u64", "usize", "isize"].map String.toList

/-! ## Characters -/

/-- The characters of literals and of their suffixes. -/
def literalChars : List Char :=
  "0123456789.dDefFilLmMsuz".toList

/-- Digits and points are characters of literals. -/
theorem mem_literalChars_of_isNumberChar {c : Char} (h : isNumberChar c = true) :
    c ∈ literalChars := by
  rw [isNumberChar, Bool.or_eq_true, beq_iff_eq] at h
  rcases h with h | rfl
  · simp only [isAsciiDigit, Bool.and_eq_true, decide_eq_true_eq] at h
    have hlow : 48 ≤ c.toNat := h.1
    have hhigh : c.toNat ≤ 57 := h.2
    rw [← Char.ofNat_toNat c]
    generalize c.toNat = n at hlow hhigh
    interval_cases n <;> decide
  · decide

namespace Digits

/-- Digits are digits of ASCII. -/
theorem isAsciiDigit_of_mem (w : Digits) : ∀ c ∈ w.text, isAsciiDigit c = true :=
  List.all_eq_true.mp w.digits

/-- Digits are decimal digits. -/
theorem isDigit_of_mem (w : Digits) {c : Char} (hc : c ∈ w.text) : isDigit c = true :=
  isDigit_of_isAsciiDigit (w.isAsciiDigit_of_mem c hc)

/-- Digits belong to words. -/
theorem isWord_of_mem (w : Digits) {c : Char} (hc : c ∈ w.text) : isWord c = true :=
  isWord_of_isDigit (w.isDigit_of_mem hc)

end Digits

namespace DecimalLiteral

variable (x : DecimalLiteral)

/-- A literal holds digits and points. -/
theorem isNumberChar_of_mem {c : Char} (hc : c ∈ x.text) : isNumberChar c = true := by
  rw [text, tail] at hc
  rcases List.mem_append.mp hc with hc | hc
  · rw [isNumberChar, x.whole.isAsciiDigit_of_mem c hc, Bool.true_or]
  · cases hf : x.fraction with
    | none =>
      rw [hf] at hc
      cases hc
    | some f =>
      rw [hf] at hc
      rcases List.mem_cons.mp hc with rfl | hc
      · decide
      · rw [isNumberChar, f.isAsciiDigit_of_mem c hc, Bool.true_or]

/-- A literal is not empty. -/
theorem text_ne_nil : x.text ≠ [] :=
  List.append_ne_nil_of_left_ne_nil x.whole.nonempty _

/-- A literal has no blanks. -/
theorem isBlank_of_mem {c : Char} (hc : c ∈ x.text) : isBlank c = false := by
  have hblank : ∀ c ∈ literalChars, isBlank c = false := List.all_iff_forall_prop.mp (by decide)
  exact hblank c (mem_literalChars_of_isNumberChar (x.isNumberChar_of_mem hc))

/-- A literal is whole exactly when it has no point. -/
theorem not_contains_point : (!x.text.contains '.') = x.fraction.isNone := by
  have hwhole : '.' ∉ x.whole.text := fun h => absurd (x.whole.isAsciiDigit_of_mem _ h) (by decide)
  have htail : '.' ∈ x.tail ↔ x.fraction.isNone = false := by
    rw [tail]
    cases x.fraction with
    | none => exact iff_of_false List.not_mem_nil nofun
    | some f => exact iff_of_true List.mem_cons_self rfl
  rw [Bool.eq_iff_iff, Bool.not_eq_true', ← Bool.not_eq_true, List.contains_iff_mem, text,
    List.mem_append, not_or, htail, Bool.not_eq_false]
  exact and_iff_right hwhole

/-- A literal with a suffix has characters of literals only. -/
theorem subset_literalChars {s : List Char} (hs : s ∈ [] :: typeSuffixes) :
    x.text ++ s ⊆ literalChars := by
  have hsuffix : ∀ s ∈ [] :: typeSuffixes, s ⊆ literalChars := by decide
  intro c hc
  rcases List.mem_append.mp hc with hc | hc
  · exact mem_literalChars_of_isNumberChar (x.isNumberChar_of_mem hc)
  · exact hsuffix s hs hc

/-! ## The numeral -/

private theorem takeWhile_digits {w r : List Char} (hw : ∀ c ∈ w, isAsciiDigit c = true)
    (hr : ∀ c ∈ r.head?, isAsciiDigit c = false) :
    (w ++ r).takeWhile isAsciiDigit = w ∧ (w ++ r).dropWhile isAsciiDigit = r := by
  rw [List.takeWhile_append_of_pos hw, List.dropWhile_append_of_pos hw]
  cases r with
  | nil => exact ⟨List.append_nil w, rfl⟩
  | cons c r =>
    have hc := hr c rfl
    rw [List.takeWhile_cons_of_neg (by rw [hc]; decide), List.append_nil,
      List.dropWhile_cons_of_neg (by rw [hc]; decide)]
    exact ⟨rfl, rfl⟩

/-- The text of a literal is read as its numeral. -/
theorem readNumeral?_text : readNumeral? x.text = some x.numeral := by
  have htail : ∀ c ∈ x.tail.head?, isAsciiDigit c = false := by
    rw [tail]
    cases x.fraction with
    | none => nofun
    | some f =>
      rintro _ ⟨⟩
      decide
  obtain ⟨htake, hdrop⟩ := takeWhile_digits x.whole.isAsciiDigit_of_mem htail
  have hne : x.whole.text.isEmpty = false := List.isEmpty_eq_false_iff.mpr x.whole.nonempty
  unfold readNumeral?
  rw [text, htake, hdrop, numeral, tail]
  cases x.fraction with
  | none => simp only [Option.elim_none, hne, Bool.false_and, Bool.false_eq_true, if_false]
  | some f =>
    obtain ⟨htake, hdrop⟩ := takeWhile_digits (r := []) f.isAsciiDigit_of_mem nofun
    rw [List.append_nil] at htake hdrop
    simp only [Option.elim_some, htake, hdrop, hne, Bool.false_and, Bool.false_eq_true, if_false]

/-- A literal denotes its value. -/
theorem readFloat?_text : readFloat? x.text = some x.value := by
  rw [readFloat?_eq fun c hc => x.isNumberChar_of_mem hc, readNumeral?_text]
  rfl

/-- Digits with an optional fraction that can be read are a literal. -/
theorem exists_text_eq {whole tail : List Char} (hne : whole ≠ [])
    (hwhole : ∀ c ∈ whole, isDigit c = true) (htail : IsFraction tail)
    (h : (readFloat? (whole ++ tail)).isSome = true) :
    ∃ x : DecimalLiteral, x.text = whole ++ tail ∧ (x.fraction = none ↔ tail = []) := by
  have hchars : ∀ c ∈ whole ++ tail, IsDigitOrPoint c := by
    intro c hc
    rcases List.mem_append.mp hc with hc | hc
    · exact .inl (hwhole c hc)
    · rcases htail with rfl | ⟨f, _, hf, rfl⟩
      · cases hc
      · rcases List.mem_cons.mp hc with rfl | hc
        · exact .inr rfl
        · exact .inl (hf c hc)
  have hascii {w : List Char} (hw : w ⊆ whole ++ tail) (hdigits : ∀ c ∈ w, isDigit c = true) :
      w.all isAsciiDigit = true := by
    rw [List.all_eq_true]
    intro c hc
    have hnumber := isNumberChar_of_readFloat? hchars h c (hw hc)
    rw [isNumberChar, Bool.or_eq_true, beq_iff_eq] at hnumber
    refine hnumber.resolve_right ?_
    rintro rfl
    exact absurd (hdigits _ hc) (by decide)
  have hwhole' := hascii (List.subset_append_left whole tail) hwhole
  rcases htail with rfl | ⟨f, hfne, hf, rfl⟩
  · exact ⟨⟨⟨whole, hne, hwhole'⟩, none⟩, rfl, iff_of_true rfl rfl⟩
  · have hf' : f.all isAsciiDigit = true :=
      hascii (fun c hc => List.mem_append_right _ (List.mem_cons_of_mem _ hc)) hf
    exact ⟨⟨⟨whole, hne, hwhole'⟩, some ⟨f, hfne, hf'⟩⟩, rfl,
      iff_of_false (Option.some_ne_none _) (List.cons_ne_nil _ _)⟩

/-! ## First choices of patterns -/

section Choices

variable {x} {c : Cursor} {r : List Char}

private theorem tryAt_text_point (h : c.rest = '.' :: r) :
    (Pattern.text ".").tryAt c = some (c.past ['.'] r) :=
  tryAt_one h rfl

private theorem tryAt_text_point_none (h : '.' ∉ c.rest.head?) :
    (Pattern.text ".").tryAt c = none := by
  apply tryAt_one_none
  intro y hy
  rw [beq_eq_false_iff_ne]
  rintro rfl
  exact h hy

/-- No digit is behind the whole part of a literal. -/
theorem isDigit_eq_false_of_mem_head? (hr : ∀ y ∈ r.head?, isDigit y = false) :
    ∀ y ∈ (x.tail ++ r).head?, isDigit y = false := by
  rw [tail]
  cases x.fraction with
  | none => exact hr
  | some f =>
    rintro _ ⟨⟩
    decide

private theorem tryAt_whole (h : c.rest = x.text ++ r)
    (hr : ∀ y ∈ r.head?, isDigit y = false) :
    digit.plus.tryAt c = some (c.past x.whole.text (x.tail ++ r)) :=
  tryAt_plus_one x.whole.nonempty (by rw [h, text, List.append_assoc])
    (fun _ hy => x.whole.isDigit_of_mem hy) (isDigit_eq_false_of_mem_head? hr)

private theorem tryAt_fraction {f : Digits} (h : c.rest = '.' :: (f.text ++ r))
    (hr : ∀ y ∈ r.head?, isDigit y = false) :
    (Pattern.text "." ++ digit.plus).tryAt c = some (c.past ('.' :: f.text) r) := by
  have hdigits : digit.plus.tryAt (c.past ['.'] (f.text ++ r)) =
      some ((c.past ['.'] (f.text ++ r)).past f.text r) :=
    tryAt_plus_one f.nonempty rfl (fun _ hy => f.isDigit_of_mem hy) hr
  rw [Cursor.past_past] at hdigits
  exact tryAt_append (tryAt_text_point h) hdigits

/-- A point without a digit behind it begins no fraction. -/
private theorem tryAt_fraction_none
    (h : ∀ t, c.rest = '.' :: t → ∀ z ∈ t.head?, isDigit z = false) :
    (Pattern.text "." ++ digit.plus).tryAt c = none := by
  refine tryAt_eq_none_iff.mpr fun d hd => ?_
  obtain ⟨e, he, hd⟩ := mem_offers_append.mp hd
  obtain ⟨y, t, hc, hy, rfl⟩ := mem_offers_one.mp he
  obtain ⟨taken, back, hne, ht, hdigits, -⟩ := mem_offers_plus_one.mp hd
  obtain ⟨z, taken, rfl⟩ := List.exists_cons_of_ne_nil hne
  obtain rfl : t = z :: taken ++ back := ht
  obtain rfl : y = '.' := beq_iff_eq.mp hy
  have hz := h _ hc z rfl
  rw [hdigits z List.mem_cons_self] at hz
  cases hz

/-- Digits with an optional fraction are chosen as a whole, also in front of a point that begins no
fraction. -/
theorem tryAt_decimal (h : c.rest = x.text ++ r) (hr : ∀ y ∈ r.head?, isDigit y = false)
    (hpoint : ∀ t, r = '.' :: t → ∀ z ∈ t.head?, isDigit z = false) :
    decimal.tryAt c = some (c.past x.text r) := by
  refine tryAt_append (tryAt_whole h hr) ?_
  rw [text, tail]
  cases x.fraction with
  | none =>
    rw [Option.elim_none, List.append_nil, List.nil_append]
    exact tryAt_opt_none (tryAt_fraction_none hpoint)
  | some f =>
    rw [Option.elim_some]
    apply tryAt_opt_some
    have hfraction := tryAt_fraction (c := c.past x.whole.text ('.' :: (f.text ++ r))) rfl hr
    rw [Cursor.past_past] at hfraction
    exact hfraction

/-- The digits of a suffixed literal are chosen as a whole. -/
theorem tryAt_mantissa (h : c.rest = x.text ++ r)
    (hr : ∀ y ∈ r.head?, isDigit y = false ∧ y ≠ '.') :
    (digit.plus ++ opt (Pattern.text ".") ++ digit.star).tryAt c = some (c.past x.text r) := by
  have hdigits (d : Cursor) (w : List Char) (hd : d.rest = w ++ r)
      (hw : ∀ y ∈ w, isDigit y = true) : digit.star.tryAt d = some (d.past w r) :=
    tryAt_star_one hd hw fun y hy => (hr y hy).1
  have hwhole := tryAt_whole h fun y hy => (hr y hy).1
  rw [tail] at hwhole
  rw [text, tail]
  cases hf : x.fraction with
  | none =>
    rw [hf, Option.elim_none, List.nil_append] at hwhole
    have hpoint : (opt (Pattern.text ".")).tryAt (c.past x.whole.text r) =
        some (c.past x.whole.text r) :=
      tryAt_opt_none (tryAt_text_point_none fun hy => (hr '.' hy).2 rfl)
    have hstar := hdigits (c.past x.whole.text r) [] rfl nofun
    rw [Cursor.past_past] at hstar
    exact tryAt_append (tryAt_append hwhole hpoint) hstar
  | some f =>
    rw [hf, Option.elim_some, List.cons_append] at hwhole
    have hpoint := tryAt_opt_some (tryAt_text_point
      (c := c.past x.whole.text ('.' :: (f.text ++ r))) rfl)
    rw [Cursor.past_past] at hpoint
    have hstar := hdigits (c.past (x.whole.text ++ ['.']) (f.text ++ r)) f.text rfl
      fun _ hy => f.isDigit_of_mem hy
    rw [Cursor.past_past, List.append_assoc] at hstar
    exact tryAt_append (tryAt_append hwhole hpoint) hstar

end Choices

/-- A type suffix is chosen as a whole. -/
private theorem tryAt_typeSuffix {s : List Char} (hs : s ∈ typeSuffixes) {c : Cursor}
    (h : c.rest = s) : typeSuffix.tryAt c = some (c.past s []) := by
  obtain ⟨prev, rest, index, marks⟩ := c
  obtain rfl : rest = s := h
  fin_cases hs <;> rfl

/-- A type suffix is chosen as a whole where there is one. -/
theorem tryAt_opt_typeSuffix {s : List Char} (hs : s ∈ [] :: typeSuffixes) {c : Cursor}
    (h : c.rest = s) : typeSuffix.opt.tryAt c = some (c.past s []) := by
  rcases List.mem_cons.mp hs with rfl | hs
  · obtain ⟨prev, rest, index, marks⟩ := c
    obtain rfl : rest = [] := h
    rfl
  · exact tryAt_opt_some (tryAt_typeSuffix hs h)

private theorem head?_typeSuffix {s : List Char} (hs : s ∈ [] :: typeSuffixes) :
    ∀ y ∈ s.head?, (isDigit y = false ∧ y ≠ '.') ∧ "eE".toList.contains y = false := by
  have hfirst : ∀ s ∈ [] :: typeSuffixes, s.head?.toList.all fun y =>
      (isDigit y = false ∧ y ≠ '.') ∧ "eE".toList.contains y = false := by decide
  intro y hy
  exact List.all_iff_forall_prop.mp (hfirst s hs) y (Option.mem_toList.mpr hy)

/-- The pattern of typed literals chooses the whole text and records the literal. -/
private theorem find?_suffixedLiteral {s : List Char} (hs : s ∈ [] :: typeSuffixes) :
    ∃ m, suffixedLiteral.find? (x.text ++ s) = some m ∧ m.group 1 = x.text := by
  have hsigns : ∀ y ∈ literalChars, "+-".toList.contains y = false :=
    List.all_iff_forall_prop.mp (by decide)
  have hsign : (opt (anyOf "+-")).tryAt (.start (x.text ++ s)) = some (.start (x.text ++ s)) := by
    refine tryAt_opt_none (tryAt_one_none ?_)
    intro z hz
    exact hsigns z (x.subset_literalChars hs (List.mem_of_mem_head? hz))
  have hmantissa := tryAt_mantissa (x := x) (c := .start (x.text ++ s)) rfl
    fun y hy => (head?_typeSuffix hs y hy).1
  have hpower : (opt (anyOf "eE" ++ opt (anyOf "+-") ++ digit.plus)).tryAt
      ((Cursor.start (x.text ++ s)).past x.text s) =
        some ((Cursor.start (x.text ++ s)).past x.text s) :=
    tryAt_opt_none (tryAt_append_none (tryAt_append_none (tryAt_one_none fun y hy =>
      (head?_typeSuffix hs y hy).2)))
  have hdigits := tryAt_either_left (q := choice ["." ++ digit.plus]) hmantissa
  have hliteral := tryAt_group 1 (tryAt_append (tryAt_append hsign hdigits) hpower)
  have hsuffix := tryAt_opt_typeSuffix hs
    (c := ((Cursor.start (x.text ++ s)).past x.text s).mark 1 0) rfl
  have hmatch : suffixedLiteral.tryAt (.start (x.text ++ s)) = _ :=
    tryAt_append (tryAt_append (tryAt_append (tryAt_look rfl) hliteral) hsuffix) (tryAt_look rfl)
  exact ⟨_, find?_of_tryAt hmatch, group_eq [] x.text s⟩

/-- A literal is no approximate comparison. -/
private theorem find?_approximation {t : List Char} (ht : t ⊆ literalChars) :
    approximation.find? t = none := by
  apply findFrom_eq_none
  intro d hd
  have hword : (Pattern.text "approx").tryAt d = none := by
    refine tryAt_append_none (p := one (· == 'a')) (q := Pattern.text "pprox") (tryAt_one_none ?_)
    have hletter : ∀ c ∈ literalChars, (c == 'a') = false :=
      List.all_iff_forall_prop.mp (by decide)
    exact fun c hc => hletter c (ht (hd.subset (List.mem_of_mem_head? hc)))
  refine tryAt_append_none (tryAt_append_none (tryAt_append_none (tryAt_append_none ?_)))
  rw [tryAt_eq_none_iff]
  intro e he
  obtain ⟨_, hedge, hletters⟩ := mem_offers_append.mp he
  obtain ⟨_, rfl⟩ := mem_offers_look.mp hedge
  exact tryAt_eq_none_iff.mp hword e hletters

/-- The value of a literal is read from it whatever its suffix is. -/
theorem readNumeric?_text {s : List Char} (hs : s ∈ [] :: typeSuffixes) :
    readNumeric? (x.text ++ s) = some x.value := by
  have hchars := x.subset_literalChars hs
  have hblank : ∀ c ∈ literalChars, isBlank c = false := List.all_iff_forall_prop.mp (by decide)
  have htrim : trim (x.text ++ s) = x.text ++ s :=
    trim_eq_self (fun c hc => hblank c (hchars (List.mem_of_mem_head? hc)))
      fun c hc => hblank c (hchars (List.mem_of_mem_getLast? hc))
  have hempty : (x.text ++ s).isEmpty = false :=
    List.isEmpty_eq_false_iff.mpr
      (List.append_ne_nil_of_left_ne_nil x.text_ne_nil _)
  have hjoiner : ∀ c ∈ literalChars, (c != '_') = true := List.all_iff_forall_prop.mp (by decide)
  have hcompact : (x.text ++ s).filter (· != '_') = x.text ++ s :=
    List.filter_eq_self.mpr fun c hc => hjoiner c (hchars hc)
  obtain ⟨m, hm, hgroup⟩ := x.find?_suffixedLiteral hs
  simp only [readNumeric?, htrim, hempty, find?_approximation hchars, Option.map_none,
    Option.getD_none, hcompact, hm, hgroup, x.readFloat?_text, Bool.false_eq_true, if_false]

end DecimalLiteral

end Adjudicator.Value
