import Adjudicator.Proofs.Outline.Unexplained
import Adjudicator.Proofs.Text.Trim

/-!
# Contradicted expectations

What makes two outlines a mismatch, in numbers alone. Main statements: outlines mismatch exactly
when an expectation is contradicted, and the numbers that a text returns line by line are those
that it mentions as returned values.
-/

namespace Adjudicator.Outline

open Text Value

/-- Whether the returned numbers and the rates of code contradict an expected number. Returned
numbers do when none of them is the expected one. Where nothing is returned, rates contradict a
percentage when none of them leaves it and one of them is another rate. -/
def Contradicted (returned rates : List Float) (expected : Float) : Prop :=
  if returned = [] then
    80.0 ≤ expected ∧ expected < 100.0 ∧
      (∀ r ∈ rates, ¬Number.abs (afterRate r - expected) < tolerance * 10.0) ∧
      ∃ r ∈ rates, rateTolerance < Number.abs ((100.0 - expected) / 100.0 - r)
  else ∀ x ∈ returned, near x expected = false

instance (returned rates : List Float) (expected : Float) :
    Decidable (Contradicted returned rates expected) := by
  delta Contradicted
  infer_instance

/-! ## Comparing -/

private theorem mem_expectedNumbers {test : Outline} {x : Assertion × Float} :
    x ∈ expectedNumbers test ↔ x.1 ∈ test.assertions ∧ x.2 ∈ x.1.value := by
  simp only [expectedNumbers, List.mem_filterMap, Option.map_eq_some_iff, Option.mem_def]
  constructor
  · rintro ⟨a, ha, e, he, rfl⟩
    exact ⟨ha, he⟩
  · rintro ⟨ha, he⟩
    exact ⟨x.1, ha, x.2, he, rfl⟩

/-- Read off as numbers, what contradicts an expected number is what does not explain it. -/
private theorem contradicted_iff {source : Outline} {expected : Float} :
    Contradicted ((numericReturns source).map Prod.snd) ((rates source).map Prod.snd) expected ↔
      if numericReturns source = [] then RateContradicts source expected
      else ¬ReturnExplains source expected := by
  rw [Contradicted]
  simp only [List.map_eq_nil_iff]
  split
  · simp only [RateContradicts, RateExplains, IsOtherRate, List.mem_map, forall_exists_index,
      and_imp, forall_apply_eq_imp_iff₂, exists_exists_and_eq_and, tolerance_mul_ten, not_exists,
      not_and]
    exact ⟨fun ⟨hlow, hhigh, hnone, hother⟩ => ⟨hnone, ⟨hlow, hhigh⟩, hother⟩,
      fun ⟨hnone, ⟨hlow, hhigh⟩, hother⟩ => ⟨hlow, hhigh, hnone, hother⟩⟩
  · simp only [ReturnExplains, List.mem_map, forall_exists_index, and_imp,
      forall_apply_eq_imp_iff₂, not_exists, not_and]
    exact forall₂_congr fun r _ => decide_eq_false_iff_not

/-- Outlines mismatch exactly when an expectation is contradicted. -/
theorem compare_eq_mismatch_iff {test source : Outline} :
    (∃ m, compare test source = .mismatch m) ↔
      ∃ a ∈ test.assertions, ∃ expected ∈ a.value,
        Contradicted ((numericReturns source).map Prod.snd) ((rates source).map Prod.snd)
          expected := by
  simp only [exists_mismatch_iff, ← contradicted_iff, mem_expectedNumbers]
  constructor
  · rintro ⟨x, ⟨ha, he⟩, h⟩
    exact ⟨x.1, ha, x.2, he, h⟩
  · rintro ⟨a, ha, expected, he, h⟩
    exact ⟨(a, expected), ⟨ha, he⟩, h⟩

/-! ## Returned numbers -/

/-- The numbers among values that are returned. -/
def returnedNumbers (values : List SourceValue) : List Float :=
  (values.filter fun v => v.role = .returned).map SourceValue.value

private theorem returnedNumbers_append (a b : List SourceValue) :
    returnedNumbers (a ++ b) = returnedNumbers a ++ returnedNumbers b := by
  simp only [returnedNumbers, List.filter_append, List.map_append]

private theorem returnedNumbers_literals (xs : List Float) (number : Nat) (context : List Char) :
    returnedNumbers (xs.map fun x => ⟨.calculation, x, number, context⟩) = [] := by
  induction xs with
  | nil => rfl
  | cons x xs ih => exact ih

private theorem evaluate?_trim (s : List Char) : evaluate? (trim s) = evaluate? s := by
  rw [evaluate?, evaluate?, trim_trim]

/-- The value of a line that returns a number is the number of the returned expression. -/
theorem returned?_eq (stripped : List Char) :
    returned? stripped =
      (returnPattern.find? stripped).bind fun m => numericValue? (trim (m.group 1)) := by
  rw [returned?]
  congr 1
  funext m
  rw [numericValue?, evaluate?_trim]
  cases evaluate? (m.group 1) with
  | some x => rfl
  | none => simp only [returnedLiteral?, trim_trim]

/-- What a line returns in an outline are its returned values. -/
private theorem returns_ofLine (line : List Char) (number : Nat) :
    (ByLine.ofLine line number).returns.filterMap Return.value =
      returnedNumbers (Value.ofLine line number) := by
  rw [ByLine.ofLine, Value.ofLine]
  split
  · rfl
  · simp only [returned?_eq]
    cases returnPattern.find? (Code.stripLiterals line) with
    | none =>
      cases assigned? (Code.stripLiterals line) with
      | none => exact (returnedNumbers_literals _ _ _).symm
      | some x => rfl
    | some m =>
      simp only [Option.map_some, Option.toList_some, Option.bind_some, List.filterMap_cons,
        List.filterMap_nil]
      cases numericValue? (trim (m.group 1)) with
      | some x => rfl
      | none =>
        cases assigned? (Code.stripLiterals line) with
        | none => exact (returnedNumbers_literals _ _ _).symm
        | some x => rfl

private theorem returns_foldl (numbered : List (List Char × Nat)) (o : Outline) :
    (numbered.foldl (fun o (line, number) => o ++ ByLine.ofLine line number) o).returns =
      o.returns ++ numbered.flatMap fun l => (ByLine.ofLine l.1 l.2).returns := by
  induction numbered generalizing o with
  | nil => rw [List.foldl_nil, List.flatMap_nil, List.append_nil]
  | cons l numbered ih =>
    rw [List.foldl_cons, ih, List.flatMap_cons, ← List.append_assoc]
    rfl

private theorem assertions_foldl (numbered : List (List Char × Nat)) (o : Outline) :
    (numbered.foldl (fun o (line, number) => o ++ ByLine.ofLine line number) o).assertions =
      o.assertions := by
  induction numbered generalizing o with
  | nil => rfl
  | cons l numbered ih =>
    have hline : (ByLine.ofLine l.1 l.2).assertions = [] := by
      rw [ByLine.ofLine]
      split <;> rfl
    rw [List.foldl_cons, ih]
    exact (congrArg (o.assertions ++ ·) hline).trans (List.append_nil _)

/-- The assertions of an outline are those that the language's reader finds. -/
theorem assertions_outline (language : Language) (text : List Char) (first : Nat) :
    (ByLine.outline language text first).assertions = ByLine.assertions language text first :=
  assertions_foldl _ _

/-- Line by line an outline returns the numbers that are returned values of the text. -/
theorem numericReturns_outline (language : Language) (text : List Char) (first : Nat) :
    (numericReturns (ByLine.outline language text first)).map Prod.snd =
      returnedNumbers (ofBody text first) := by
  have hvalues (returns : List Return) :
      (returns.filterMap fun r => r.value.map (r, ·)).map Prod.snd =
        returns.filterMap Return.value := by
    rw [List.map_filterMap]
    congr 1
    funext r
    rw [Option.map_map]
    exact Option.map_id'
  rw [numericReturns, hvalues, ByLine.outline, returns_foldl, List.nil_append, ofBody]
  induction (lines text).zipIdx first with
  | nil => rfl
  | cons l numbered ih =>
    rw [List.flatMap_cons, List.filterMap_append, returns_ofLine, ih, List.flatMap_cons,
      returnedNumbers_append]

end Adjudicator.Outline
