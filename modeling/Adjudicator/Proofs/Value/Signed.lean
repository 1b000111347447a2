import Adjudicator.Outline.Basic
import Adjudicator.Proofs.Pattern.Needed
import Adjudicator.Proofs.Value.Decimal
import Adjudicator.Proofs.Value.Evaluation

/-!
# Signed literals

A decimal literal with or without a minus sign in front of it. Main statement: as the value of an
assertion and as a returned expression it is read as the same number, however long it is. The
evaluation of expressions gives up on long texts and on numbers that are not finite; the reading of
literals then takes its place.
-/

namespace Adjudicator.Value

open Text Number Pattern

/-- A minus sign negates what digits and points denote. -/
theorem readFloat?_minus {s : List Char} (h : ∀ c ∈ s, isNumberChar c = true) :
    readFloat? ('-' :: s) = (readFloat? s).map fun x => -x := by
  have hminus (rest : List Char) : s ≠ '-' :: rest := by
    rintro rfl
    exact absurd (h '-' List.mem_cons_self) (by decide)
  have hplus (rest : List Char) : s ≠ '+' :: rest := by
    rintro rfl
    exact absurd (h '+' List.mem_cons_self) (by decide)
  rw [readFloat?, readFloat?]
  · simp only [if_true, Bool.false_eq_true, if_false, Option.map_id']
  · exact hminus
  · exact hplus

/-- A decimal literal behind an optional minus sign. -/
structure SignedLiteral where
  /-- Whether there is a sign. -/
  negative : Bool
  /-- The literal behind the sign. -/
  size : DecimalLiteral

namespace SignedLiteral

/-- How the sign is written. -/
def sign (x : SignedLiteral) : List Char :=
  if x.negative then ['-'] else []

/-- How a literal is written. -/
def text (x : SignedLiteral) : List Char :=
  x.sign ++ x.size.text

/-- The double nearest to a literal. -/
def value (x : SignedLiteral) : Float :=
  if x.negative then -x.size.value else x.size.value

variable (x : SignedLiteral)

/-! ## Characters -/

/-- A literal has a minus sign, digits and points only. -/
theorem mem_or_isNumberChar {c : Char} (hc : c ∈ x.text) : c = '-' ∨ isNumberChar c = true := by
  rw [text, sign] at hc
  rcases List.mem_append.mp hc with hc | hc
  · split at hc
    · exact .inl (List.mem_singleton.mp hc)
    · cases hc
  · exact .inr (x.size.isNumberChar_of_mem hc)

/-- A property of signs, points and digits holds of all characters. -/
theorem forall_mem_text {P : Char → Prop} [DecidablePred P]
    (h : ("-.0123456789".toList.all fun c => P c) = true) : ∀ c ∈ x.text, P c := by
  have hnumber : ∀ c ∈ literalChars, isNumberChar c = true → c ∈ "-.0123456789".toList :=
    List.all_iff_forall_prop.mp (by decide)
  intro c hc
  refine List.all_iff_forall_prop.mp h c ?_
  rcases x.mem_or_isNumberChar hc with rfl | hc
  · decide
  · exact hnumber c (mem_literalChars_of_isNumberChar hc) hc

/-- A literal is not empty. -/
theorem text_ne_nil : x.text ≠ [] :=
  List.append_ne_nil_of_right_ne_nil _ x.size.text_ne_nil

/-- No blanks are around a literal. -/
theorem trim_text : trim x.text = x.text := by
  have hblank : ∀ c ∈ x.text, isBlank c = false := x.forall_mem_text (by decide)
  exact trim_eq_self (fun c hc => hblank c (List.mem_of_mem_head? hc))
    fun c hc => hblank c (List.mem_of_mem_getLast? hc)

/-! ## Readings -/

/-- The text of a literal is read as its value. -/
theorem readFloat?_text : readFloat? x.text = some x.value := by
  have hsize := x.size.readFloat?_text
  rw [text, sign, value]
  cases x.negative with
  | false =>
    rw [if_neg Bool.false_ne_true, if_neg Bool.false_ne_true, List.nil_append]
    exact hsize
  | true =>
    have hminus := readFloat?_minus fun c hc => x.size.isNumberChar_of_mem hc
    rw [hsize] at hminus
    rw [if_pos rfl, if_pos rfl, List.singleton_append]
    exact hminus

/-- The pattern of typed literals chooses the whole text. -/
private theorem find?_suffixedLiteral_signed :
    ∃ m, suffixedLiteral.find? x.text = some m ∧ m.group 1 = x.text := by
  have hsign : (opt (anyOf "+-")).tryAt (.start x.text) =
      some ((Cursor.start x.text).past x.sign x.size.text) := by
    rw [text, sign]
    cases x.negative with
    | true => exact tryAt_opt_some (tryAt_one rfl (by decide))
    | false =>
      refine tryAt_opt_none (tryAt_one_none fun y hy => ?_)
      have hno : ∀ y ∈ literalChars, "+-".toList.contains y = false :=
        List.all_iff_forall_prop.mp (by decide)
      exact hno y (mem_literalChars_of_isNumberChar
        (x.size.isNumberChar_of_mem (List.mem_of_mem_head? hy)))
  have hmantissa := DecimalLiteral.tryAt_mantissa (x := x.size) (r := [])
    (c := (Cursor.start x.text).past x.sign x.size.text) (List.append_nil _).symm nofun
  rw [Cursor.past_past] at hmantissa
  have hpower : (opt (anyOf "eE" ++ opt (anyOf "+-") ++ digit.plus)).tryAt
      ((Cursor.start x.text).past x.text []) = some ((Cursor.start x.text).past x.text []) :=
    tryAt_opt_none (tryAt_append_none (tryAt_append_none (tryAt_one_none nofun)))
  have hdigits := tryAt_either_left (q := choice ["." ++ digit.plus]) hmantissa
  have hliteral := tryAt_group 1 (tryAt_append (tryAt_append hsign hdigits) hpower)
  have hsuffix := DecimalLiteral.tryAt_opt_typeSuffix (s := []) List.mem_cons_self
    (c := ((Cursor.start x.text).past x.text []).mark 1 0) rfl
  have hmatch : suffixedLiteral.tryAt (.start x.text) = _ :=
    tryAt_append (tryAt_append (tryAt_append (tryAt_look rfl) hliteral) hsuffix) (tryAt_look rfl)
  have hsubject : x.text = [] ++ (x.text ++ []) := (List.append_nil _).symm
  exact ⟨_, find?_of_tryAt hmatch, group_of_span? hsubject rfl⟩

/-- The value of an assertion is read from a literal. -/
theorem readNumeric?_text : readNumeric? x.text = some x.value := by
  have hempty : x.text.isEmpty = false := List.isEmpty_eq_false_iff.mpr x.text_ne_nil
  have happroximation : approximation.find? x.text = none := by
    refine Needs.find?_eq_none (w := "approx".toList)
      (needs_boundary "approx").append.append.append.append fun hstands => ?_
    have hletter : ∀ c ∈ x.text, c ≠ 'a' := x.forall_mem_text (by decide)
    exact hletter 'a' (hstands.subset (by decide)) rfl
  have hcompact : x.text.filter (· != '_') = x.text :=
    List.filter_eq_self.mpr (x.forall_mem_text (by decide))
  obtain ⟨m, hm, hgroup⟩ := x.find?_suffixedLiteral_signed
  simp only [readNumeric?, x.trim_text, hempty, happroximation, Option.map_none, Option.getD_none,
    hcompact, hm, hgroup, x.readFloat?_text, Bool.false_eq_true, if_false]

/-! ## Evaluation -/

/-- What a literal says as an expression. -/
def expression : Expression :=
  if x.negative then .negative (.numeral x.size.text) else .numeral x.size.text

private theorem derives_text : Derives .sum x.expression x.text := by
  have hnumeral : IsNumeral x.size.text :=
    (isSome_readFloat?_iff fun c hc => x.size.isNumberChar_of_mem hc).mp
      (by rw [x.size.readFloat?_text]; rfl)
  have hsize : Derives .factor (.numeral x.size.text) x.size.text :=
    .numeral (b := []) nofun hnumeral
  have hfactor : Derives .factor x.expression x.text := by
    rw [expression, text, sign]
    cases x.negative with
    | false => exact hsize
    | true => exact .negative (b := []) nofun hsize
  exact .single (.single hfactor)

private theorem value_expression : x.expression.value = x.value := by
  have hsize : (Expression.numeral x.size.text).value = x.size.value := by
    rw [Expression.value, x.size.readFloat?_text, Option.getD_some]
  rw [expression, value]
  cases x.negative with
  | false => rw [if_neg Bool.false_ne_true, if_neg Bool.false_ne_true, hsize]
  | true => rw [if_pos rfl, if_pos rfl, Expression.value, hsize]

/-- A literal is evaluated to its value or, when it is too long or not finite, not at all. -/
theorem evaluate?_text : evaluate? x.text = none ∨ evaluate? x.text = some x.value := by
  have hzero : x.expression.NoZeroDivisor := by
    rw [expression]
    cases x.negative <;> trivial
  have hrun : sum? (5 * x.text.length + 5) x.text = some (x.value, []) := by
    rw [sum?_of_le (Nat.le_refl _), run_of_derives x.derives_text hzero, x.value_expression]
  simp only [evaluate?, x.trim_text, hrun]
  split
  · exact .inl rfl
  · split
    · exact .inr rfl
    · exact .inl rfl

/-- The value of a returned expression is read from a literal. -/
theorem numericValue?_text : Outline.numericValue? x.text = some x.value := by
  have hbegins : beginsNumber x.text = true := by
    have hchars : ∀ c ∈ x.text, (isAsciiDigit c || c == '-' || c == '.') = true := by
      intro c hc
      rcases x.mem_or_isNumberChar hc with rfl | hnumber
      · rfl
      · rw [isNumberChar, Bool.or_eq_true] at hnumber
        rcases hnumber with h | h <;> simp [h]
    obtain ⟨c, rest, htext⟩ := List.exists_cons_of_ne_nil x.text_ne_nil
    rw [htext]
    exact hchars c (by rw [htext]; exact List.mem_cons_self)
  have hblank : x.text.any isBlank = false :=
    List.any_eq_false.mpr fun c hc => by
      rw [x.forall_mem_text (P := fun c => isBlank c = false) (by decide) c hc]
      exact Bool.false_ne_true
  rw [Outline.numericValue?]
  rcases x.evaluate?_text with h | h
  · rw [h]
    simp only [x.trim_text, hbegins, hblank, Bool.not_false, Bool.and_self, if_true,
      x.readNumeric?_text]
  · rw [h]

end SignedLiteral

end Adjudicator.Value
