import Adjudicator.Proofs.Divergence.Explained

/-!
# Inferences about explained expectations

Inference leaves an expectation alone when the method mentions it, whereas the comparison of values
also accepts what a rate gives as a percentage. Main statement: for an explained pair this is all
the difference, so an inference is always about an expectation that only a rate explains.
-/

namespace Adjudicator

open Value

namespace Pair

/-- The method of a pair mentions a number as it stands. -/
def Mentions (pair : Pair) (x : Float) : Prop :=
  ∃ v ∈ pair.values, near v.value x = true

/-- A rate of the method gives a number as a percentage, as what remains or as what is taken
off. -/
def Converts (pair : Pair) (x : Float) : Prop :=
  ∃ v ∈ pair.values, Static.isRate v.value = true ∧
    (near (100.0 * (1.0 - v.value)) x = true ∨ near (100.0 * v.value) x = true)

/-- Each expectation of an explained pair is mentioned or is a percentage. -/
theorem Explained.mentions_or_converts {pair : Pair} (h : pair.Explained) {e : Static.Expectation}
    (he : e ∈ Static.expectations pair.test.assertions) :
    pair.Mentions e.value ∨ pair.Converts e.value := by
  obtain ⟨v, hv, hexplains⟩ := Static.exists_explains h he
  rw [Static.explains, Bool.or_eq_true] at hexplains
  rcases hexplains with hnear | hrate
  · exact .inl ⟨v, hv, hnear⟩
  · rw [Bool.and_eq_true, Bool.or_eq_true] at hrate
    exact .inr ⟨v, hv, hrate⟩

end Pair

namespace Inference

/-- The ways in which a constant would have to change, the ones that are tried first in front. -/
def ways : List (Static.Expectation → SourceValue → Option Inference) :=
  [nearMiss?, percentage?, threshold?]

/-- Whether the change of a number of the code in some way would meet an expectation. -/
def Suggested (e : Static.Expectation) (v : SourceValue) : Prop :=
  ∃ infer? ∈ ways, (infer? e v).isSome = true

/-- However an inference is made, it keeps the number that is expected. -/
private theorem expected_of_mem_ways {infer? : Static.Expectation → SourceValue → Option Inference}
    (h : infer? ∈ ways) {e : Static.Expectation} {v : SourceValue} {i : Inference}
    (hi : infer? e v = some i) : i.expected = e.value := by
  simp only [ways, List.mem_cons, List.not_mem_nil, or_false] at h
  rcases h with rfl | rfl | rfl
  all_goals
    simp only [nearMiss?, percentage?, threshold?, Option.ite_none_right_eq_some,
      Option.some.injEq] at hi
    obtain ⟨_, rfl⟩ := hi
    rfl

/-- Expectations that inference considers are those that the method does not mention. -/
private theorem mem_unmentioned {pair : Pair} {e : Static.Expectation} :
    (e ∈ (Static.expectations pair.test.assertions).filter fun e =>
      !pair.values.any fun v => near v.value e.value) ↔
      e ∈ Static.expectations pair.test.assertions ∧ ¬pair.Mentions e.value := by
  rw [List.mem_filter, Bool.not_eq_true', ← Bool.not_eq_true, List.any_eq_true, Pair.Mentions]

/-- Nothing is inferred exactly when each expectation is mentioned or no number of the method
could be changed for it. -/
theorem ofPair?_eq_none_iff {pair : Pair} :
    ofPair? pair = none ↔
      ∀ e ∈ Static.expectations pair.test.assertions,
        pair.Mentions e.value ∨ ∀ v ∈ pair.values, ¬Suggested e v := by
  rw [ofPair?, ← Pair.values, ← ways]
  simp only [List.findSome?_eq_none_iff, first?, mem_unmentioned]
  constructor
  · intro h e he
    by_cases hmentions : pair.Mentions e.value
    · exact .inl hmentions
    · right
      rintro v hv ⟨infer?, hinfer, hsome⟩
      rw [h infer? hinfer e ⟨he, hmentions⟩ v hv] at hsome
      cases hsome
  · rintro h infer? hinfer e ⟨he, hmentions⟩ v hv
    exact Option.not_isSome_iff_eq_none.mp fun hsome =>
      (h e he).resolve_left hmentions v hv ⟨infer?, hinfer, hsome⟩

/-- What is inferred is about an expectation that the method does not mention. -/
theorem exists_of_ofPair?_eq_some {pair : Pair} {i : Inference} (h : ofPair? pair = some i) :
    ∃ e ∈ Static.expectations pair.test.assertions,
      e.value = i.expected ∧ ¬pair.Mentions e.value := by
  obtain ⟨infer?, hinfer, hfirst⟩ := List.exists_of_findSome?_eq_some h
  obtain ⟨e, he, hvalues⟩ := List.exists_of_findSome?_eq_some hfirst
  obtain ⟨v, _, hi⟩ := List.exists_of_findSome?_eq_some hvalues
  obtain ⟨hmem, hmentions⟩ := mem_unmentioned.mp he
  exact ⟨e, hmem, (expected_of_mem_ways hinfer hi).symm, hmentions⟩

/-- For an explained pair something is inferred exactly when some number of its method could be
changed to meet an expectation that the method does not mention, and what is inferred is always
about an expectation that the method gives as a percentage. -/
theorem inferred_from_percentage {pair : Pair} (h : pair.Explained) :
    (ofPair? pair = none ↔
      ∀ e ∈ Static.expectations pair.test.assertions,
        pair.Mentions e.value ∨ ∀ v ∈ pair.values, ¬Suggested e v) ∧
      ∀ i ∈ ofPair? pair, ¬pair.Mentions i.expected ∧ pair.Converts i.expected := by
  refine ⟨ofPair?_eq_none_iff, fun i hi => ?_⟩
  obtain ⟨e, he, hvalue, hmentions⟩ := exists_of_ofPair?_eq_some hi
  rw [← hvalue]
  exact ⟨hmentions, (h.mentions_or_converts he).resolve_left hmentions⟩

/-- A rate whose percentage is no whole number. -/
def fractional : Pair :=
  Static.expecting "85.5" "return price * (1 - 0.145);"

/-- A rate next to a number that is close to what it gives. -/
def accompanied : Pair :=
  Static.expecting "85" "log(90);\nreturn price * 0.85;"

private theorem explained_fractional : fractional.Explained := by
  decide

private theorem ofPair?_fractional : (ofPair? fractional).isSome = true := by
  decide

/-- A rate is inferred to have to change to itself. -/
theorem fractional_percentage_inferred :
    fractional.Explained ∧
      ∃ i ∈ ofPair? fractional, ¬fractional.Mentions i.expected ∧ fractional.Converts i.expected :=
  have ⟨i, hi⟩ := Option.isSome_iff_exists.mp ofPair?_fractional
  ⟨explained_fractional, i, hi, (inferred_from_percentage explained_fractional).2 i hi⟩

/-- Something can be inferred about explained pairs that the comparison of numbers accepts: about
a rate whose percentage is no whole number, and about a number next to a rate. -/
theorem inferred_from_explained :
    (fractional.Explained ∧ Static.detect? fractional none = none ∧
      (detect? fractional).isSome = true) ∧
    (accompanied.Explained ∧ Static.detect? accompanied none = none ∧
      (detect? accompanied).isSome = true) := by
  refine ⟨⟨explained_fractional, ?_, Option.isSome_map.trans ofPair?_fractional⟩, ?_⟩
  all_goals decide +kernel

end Inference

end Adjudicator
