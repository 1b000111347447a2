import Adjudicator.Proofs.Text.Trim
import Adjudicator.TestRun.Basic

/-!
# Names of tests

Two names match when they are the same text or have the same last part. Main statement: matching is
an equivalence, so the tests of a run fall into classes of which a name says no more than the class.
-/

namespace Adjudicator.TestRun

open Text

variable {a b c : List Char}

/-- Two names match when they are the same or have the same last part. -/
theorem namesMatch_iff :
    namesMatch a b = true ↔
      trim a = trim b ∨ (lastPart (trim a) ≠ [] ∧ lastPart (trim a) = lastPart (trim b)) := by
  simp only [namesMatch, Bool.or_eq_true, beq_iff_eq, Bool.and_eq_true, Bool.not_eq_true',
    List.isEmpty_eq_false_iff, ne_eq]

/-- A name matches itself. -/
theorem namesMatch_refl (a : List Char) : namesMatch a a = true :=
  namesMatch_iff.mpr (.inl rfl)

/-- Matching does not depend on the order of the names. -/
theorem namesMatch_symm (h : namesMatch a b = true) : namesMatch b a = true := by
  rw [namesMatch_iff] at h ⊢
  rcases h with htrim | ⟨hne, hlast⟩
  · exact .inl htrim.symm
  · exact .inr ⟨hlast ▸ hne, hlast.symm⟩

/-- Names that match the same name match each other. -/
theorem namesMatch_trans (hab : namesMatch a b = true) (hbc : namesMatch b c = true) :
    namesMatch a c = true := by
  rw [namesMatch_iff] at hab hbc ⊢
  rcases hab with hab | ⟨hne, hab⟩
  · rwa [hab]
  rcases hbc with hbc | ⟨-, hbc⟩
  · exact .inr ⟨hne, hbc ▸ hab⟩
  · exact .inr ⟨hne, hab.trans hbc⟩

/-- Matching sorts names into classes. -/
theorem namesMatch_equivalence : Equivalence fun a b => namesMatch a b = true :=
  ⟨namesMatch_refl, namesMatch_symm, namesMatch_trans⟩

/-- Blanks around a name play no part. -/
theorem namesMatch_trim (a b : List Char) : namesMatch (trim a) b = namesMatch a b := by
  rw [namesMatch, namesMatch, trim_trim]

/-- The first failure with the name of a test is the failure of the test. -/
theorem failureOf?_of_first {r : TestRun} {front back : List TestOutcome} {o : TestOutcome}
    (houtcomes : r.outcomes = front ++ o :: back) (hfailed : o.status = .failed)
    (hfront : ∀ o' ∈ front, o'.status = .failed →
      namesMatch o'.name.toList o.name.toList = false) :
    r.failureOf? o.name = o.message := by
  have hnone : front.find? (fun o' => decide (o'.status = .failed) &&
      namesMatch o'.name.toList o.name.toList) = none := by
    refine List.find?_eq_none.mpr fun o' ho' hmatch => ?_
    rw [Bool.and_eq_true, decide_eq_true_eq] at hmatch
    rw [hfront o' ho' hmatch.1] at hmatch
    exact Bool.false_ne_true hmatch.2
  rw [failureOf?, houtcomes, List.find?_append, hnone, Option.none_or,
    List.find?_cons_of_pos (by simp [hfailed, namesMatch_refl])]
  rfl

example : namesMatch "Cart › adds".toList "adds".toList = true := by
  decide

end Adjudicator.TestRun
