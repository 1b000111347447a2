import Adjudicator.Proofs.Mutation.WeakSpots
import Adjudicator.Proofs.Number.Quotient

/-!
# More assertions notice more

Every rule for judging a mutation asks for one assertion that could observe it and that shows it.
Main statement: with more assertions a report has the same mutations, each of which is caught if it
was caught before, and weak spots only on lines that had one, of no further kinds and no higher
severity.
-/

namespace Adjudicator

/-- How high a severity is. -/
def Severity.rank : Severity → Nat
  | low => 0
  | medium => 1
  | high => 2

namespace Mutation

open Text

variable {few more : List Assertion} {m : Mutation} {outcomes before after : List MutationOutcome}

/-! ## Judgements -/

/-- Whether an assertion that could observe a mutation shows it. -/
def shows (m : Mutation) (a : Assertion) : Bool :=
  match m.kind with
  | .number =>
    m.change.any fun c =>
      mentions [c.old] a || (tolerant.found a.raw.toList && 0.1 - 1e-9 ≤ relativeChange c)
  | .result => a.kind = .equals
  | .bound => mentions (Value.literals m.code) a
  | .operator | .truth | .condition => true

private theorem caught_ite {b : Bool} {j k : Judgement} (hj : j.caught = true)
    (hk : k.caught = false) : (if b then j else k).caught = b := by
  cases b with
  | true => exact hj
  | false => exact hk

private theorem caught_judgeNumber (change : Option NumberChange) (relevant : List Assertion) :
    (judgeNumber change relevant).caught = relevant.any fun a => change.any fun c =>
      mentions [c.old] a || (tolerant.found a.raw.toList && 0.1 - 1e-9 ≤ relativeChange c) := by
  cases change with
  | none => exact (List.any_eq_false.mpr fun _ _ => Bool.false_ne_true).symm
  | some c =>
    rw [Bool.eq_iff_iff, judgeNumber]
    simp only [Option.any_some, List.any_eq_true, Bool.or_eq_true, Bool.and_eq_true]
    by_cases hpinned : ∃ a ∈ relevant, mentions [c.old] a = true
    · obtain ⟨a, ha, hmentions⟩ := hpinned
      rw [if_pos ⟨a, ha, hmentions⟩]
      exact iff_of_true rfl ⟨a, ha, .inl hmentions⟩
    · rw [if_neg hpinned]
      by_cases htolerant : (∃ a ∈ relevant, tolerant.found a.raw.toList = true) ∧
          decide (0.1 - 1e-9 ≤ relativeChange c) = true
      · rw [if_pos htolerant]
        obtain ⟨⟨a, ha, hfound⟩, hlarge⟩ := htolerant
        exact iff_of_true rfl ⟨a, ha, .inr ⟨hfound, hlarge⟩⟩
      · rw [if_neg htolerant]
        refine iff_of_false Bool.false_ne_true ?_
        rintro ⟨a, ha, hmentions | ⟨hfound, hlarge⟩⟩
        · exact hpinned ⟨a, ha, hmentions⟩
        · exact htolerant ⟨⟨a, ha, hfound⟩, hlarge⟩

/-- A rule that tells apart what the assertions show, and catches whatever there are any. -/
private theorem caught_of_any (b : Bool) {relevant : List Assertion} {j j' k : Judgement}
    (hj : j.caught = true) (hj' : j'.caught = true) (hk : k.caught = false)
    (hb : relevant = [] → b = false) :
    (if b then j else if !relevant.isEmpty then j' else k).caught =
      relevant.any fun _ => true := by
  cases relevant with
  | nil =>
    rw [hb rfl]
    exact hk
  | cons a rest =>
    cases b with
    | true => exact hj
    | false => exact hj'

/-- Every rule asks for one assertion that shows the mutation. -/
theorem caught_judgeBy (m : Mutation) (relevant : List Assertion) :
    (judgeBy m relevant).caught = relevant.any (shows m) := by
  unfold judgeBy shows
  cases m.kind with
  | number => exact caught_judgeNumber m.change relevant
  | result => exact caught_ite rfl rfl
  | operator =>
    refine caught_of_any _ rfl rfl rfl ?_
    rintro rfl
    rfl
  | bound => exact caught_ite rfl rfl
  | truth => cases relevant <;> rfl
  | condition =>
    refine caught_of_any _ rfl rfl rfl ?_
    rintro rfl
    rfl

/-- A mutation is caught when one assertion that could observe it shows it. -/
theorem caught_judge (assertions : List Assertion) (m : Mutation) :
    (judge assertions m).caught = assertions.any fun a => observes m.kind a && shows m a := by
  rw [judge, caught_judgeBy, List.any_filter]

/-- What some assertions catch more assertions catch. -/
theorem caught_judge_mono (hsub : few ⊆ more) (h : (judge few m).caught = true) :
    (judge more m).caught = true := by
  rw [caught_judge, List.any_eq_true] at h ⊢
  obtain ⟨a, ha, hshows⟩ := h
  exact ⟨a, hsub ha, hshows⟩

/-! ## Outcomes -/

/-- Outcomes of the same mutations, each of which is still caught if it was caught before. -/
def StillCaught (before after : List MutationOutcome) : Prop :=
  List.Forall₂ (fun o o' => o'.mutation = o.mutation ∧ (o.caught = true → o'.caught = true))
    before after

/-- With more assertions every mutation that was caught is still caught. -/
theorem stillCaught_judge (hsub : few ⊆ more) (mutations : List Mutation) :
    StillCaught (mutations.map (judge few)) (mutations.map (judge more)) := by
  rw [StillCaught, List.forall₂_map_left_iff, List.forall₂_map_right_iff, List.forall₂_same]
  exact fun m _ => ⟨rfl, caught_judge_mono hsub⟩

/-- The mutations stay the same, and so does their order. -/
theorem StillCaught.map_mutation (h : StillCaught before after) :
    after.map MutationOutcome.mutation = before.map MutationOutcome.mutation := by
  induction h with
  | nil => rfl
  | cons ho _ ih => rw [List.map_cons, List.map_cons, ho.1, ih]

/-- At least as many mutations are caught after as before. -/
theorem StillCaught.length_filter_le (h : StillCaught before after) :
    (before.filter MutationOutcome.caught).length ≤
      (after.filter MutationOutcome.caught).length := by
  induction h with
  | nil => exact Nat.le_refl 0
  | @cons o o' _ _ ho _ ih =>
    simp only [List.filter_cons]
    cases hcaught : o.caught with
    | true =>
      rw [ho.2 hcaught]
      exact Nat.succ_le_succ ih
    | false =>
      simp only [Bool.false_eq_true, if_false]
      split
      · exact Nat.le_succ_of_le ih
      · exact ih

/-- What is missed after was missed before. -/
theorem StillCaught.exists_missed (h : StillCaught before after) {o' : MutationOutcome}
    (ho' : o' ∈ after.filter fun o => !o.caught) :
    ∃ o ∈ before.filter fun o => !o.caught, o'.mutation = o.mutation := by
  rw [List.mem_filter] at ho'
  obtain ⟨hmem, hmissed⟩ := ho'
  induction h with
  | nil => cases hmem
  | @cons o o' before after ho _ ih =>
    rcases List.mem_cons.mp hmem with rfl | hmem
    · refine ⟨o, List.mem_filter.mpr ⟨List.mem_cons_self, ?_⟩, ho.1⟩
      cases hcaught : o.caught with
      | true =>
        rw [ho.2 hcaught] at hmissed
        cases hmissed
      | false => rfl
    · obtain ⟨o, ho, hmutation⟩ := ih hmem
      rw [List.mem_filter] at ho
      exact ⟨o, List.mem_filter.mpr ⟨List.mem_cons_of_mem _ ho.1, ho.2⟩, hmutation⟩

/-! ## Weak spots -/

/-- The severity of fewer kinds is no higher. -/
theorem rank_severity_mono {kinds kinds' : List MutationKind} (h : kinds' ⊆ kinds) :
    (severity kinds').rank ≤ (severity kinds).rank := by
  have hcontains : ∀ k, kinds'.contains k = true → kinds.contains k = true := by
    intro k hk
    rw [List.contains_iff_mem] at hk ⊢
    exact h hk
  have hnumber := hcontains .number
  have hresult := hcontains .result
  unfold severity
  revert hnumber hresult
  cases kinds'.contains .number <;> cases kinds'.contains .result <;>
    cases kinds.contains .number <;> cases kinds.contains .result <;> decide

/-- No weak spot is new or weaker than before. -/
theorem StillCaught.exists_weakSpot (h : StillCaught before after) {w' : WeakSpot}
    (hw' : w' ∈ weakSpots after) : ∃ w ∈ weakSpots before,
      w.line = w'.line ∧ w'.kinds ⊆ w.kinds ∧ w'.severity.rank ≤ w.severity.rank := by
  obtain ⟨o', ho', hline'⟩ := exists_mem_weakSpots_iff.mp ⟨w', hw', rfl⟩
  obtain ⟨o, ho, hmutation⟩ := h.exists_missed ho'
  rw [hmutation] at hline'
  obtain ⟨w, hw, hline⟩ := exists_mem_weakSpots_iff.mpr ⟨o, ho, hline'⟩
  have hkinds : w'.kinds ⊆ w.kinds := by
    intro k hk
    obtain ⟨o', ho', hline', rfl⟩ := (mem_kinds_of_mem_weakSpots hw').mp hk
    obtain ⟨o, ho, hmutation⟩ := h.exists_missed ho'
    rw [hmutation] at hline' ⊢
    exact (mem_kinds_of_mem_weakSpots hw).mpr ⟨o, ho, hline'.trans hline.symm, rfl⟩
  refine ⟨w, hw, hline, hkinds, ?_⟩
  rw [severity_of_mem_weakSpots hw, severity_of_mem_weakSpots hw']
  exact rank_severity_mono hkinds

/-! ## Reports -/

/-- What is mutated is read off the method and its file alone. -/
private theorem exists_report_eq (method : Method) (file : Option (List Char)) :
    ∃ text first, ∀ pair : Pair, pair.method = method →
      report pair file = reportOf pair.test.assertions text first := by
  cases file with
  | none =>
    refine ⟨method.body.toList, method.line, ?_⟩
    rintro pair rfl
    rfl
  | some text =>
    by_cases hblank : blank method.body.toList = true
    · refine ⟨text, 1, ?_⟩
      rintro pair rfl
      simp only [report, hblank, if_true]
    · refine ⟨method.body.toList, method.line, ?_⟩
      rintro pair rfl
      simp only [report, hblank, Bool.false_eq_true, if_false]

private theorem score_mono {r r' : MutationReport} (htotal : r'.total = r.total)
    (hcaught : r.caught ≤ r'.caught) :
    ¬r'.score < r.score ∧ (r.total < 2 ^ 64 → r.score ≤ r'.score) := by
  unfold MutationReport.score
  rw [htotal]
  split
  next => exact ⟨by decide, fun _ => by decide⟩
  next hne =>
    have hle : r'.caught ≤ r.total := by
      rw [← htotal]
      exact List.length_filter_le _ _
    exact Number.ofInt_div_mono hcaught hle (Nat.pos_of_ne_zero hne)

/-- With more assertions a method has the same mutations, and each is caught if it was caught
before. The score does not fall, and rises or stays where the count of mutations fits a machine
word, so that the score is a number. Every weak spot was one before, of at least its kinds and its
severity. -/
theorem more_assertions_weaken_nothing {pair pair' : Pair} (file : Option (List Char))
    (hmethod : pair'.method = pair.method) (hsub : pair.test.assertions ⊆ pair'.test.assertions) :
    let before := report pair file
    let after := report pair' file
    after.outcomes.map MutationOutcome.mutation = before.outcomes.map MutationOutcome.mutation ∧
    after.total = before.total ∧
    List.Forall₂ (fun o o' => o'.mutation = o.mutation ∧ (o.caught = true → o'.caught = true))
      before.outcomes after.outcomes ∧
    before.caught ≤ after.caught ∧
    ¬after.score < before.score ∧ (before.total < 2 ^ 64 → before.score ≤ after.score) ∧
    ∀ w' ∈ after.weakSpots, ∃ w ∈ before.weakSpots,
      w.line = w'.line ∧ w'.kinds ⊆ w.kinds ∧ w'.severity.rank ≤ w.severity.rank := by
  obtain ⟨text, first, hreport⟩ := exists_report_eq pair.method file
  rw [hreport pair rfl, hreport pair' hmethod]
  have hstill := stillCaught_judge hsub (ofBody text first)
  have htotal : (reportOf pair'.test.assertions text first).total =
      (reportOf pair.test.assertions text first).total := by
    simp only [MutationReport.total, reportOf, List.length_map]
  obtain ⟨hscore, hscore'⟩ := score_mono htotal hstill.length_filter_le
  exact ⟨hstill.map_mutation, htotal, hstill, hstill.length_filter_le, hscore, hscore',
    fun _ => hstill.exists_weakSpot⟩

/-- A pair whose method takes off a share of a price, with a test that asserts this much. -/
def pricedPair (assertions : List Assertion) : Pair :=
  { test :=
      { name := "testCalculate", file := "src/test/java/CalcTest.java", line := 1, endLine := 3
        framework := .junit5, assertions, body := "assertEquals(85, calc.calculate(100));" }
    method :=
      { name := "calculate", file := "src/main/java/Calc.java", line := 1, endLine := 3
        parameters := [], result := none, body := "return price * 0.85;", owner := some "Calc" }
    confidence := 0.8, link := .callGraph }

/-- An assertion on the price. -/
def priceAssertion : Assertion :=
  { kind := .equals, expected := some "85", actual := some "calc.calculate(100)", line := 2
    raw := "assertEquals(85, calc.calculate(100));" }

/-- An assertion on the share. -/
def shareAssertion : Assertion :=
  { kind := .equals, expected := some "0.85", actual := some "calc.calculate(1)", line := 3
    raw := "assertEquals(0.85, calc.calculate(1));" }

/-- A test that catches some mutations by the price catches these and more when it asserts the share
in front of it. -/
theorem price_assertion_weakens_nothing :
    let before := report (pricedPair [priceAssertion]) none
    let after := report (pricedPair [shareAssertion, priceAssertion]) none
    ((pricedPair [shareAssertion, priceAssertion]).method = (pricedPair [priceAssertion]).method ∧
      (pricedPair [priceAssertion]).test.assertions ⊆
        (pricedPair [shareAssertion, priceAssertion]).test.assertions) ∧
      (before.caught = 2 ∧ after.caught = 4) ∧
      List.Forall₂ (fun o o' => o'.mutation = o.mutation ∧ (o.caught = true → o'.caught = true))
        before.outcomes after.outcomes ∧
      ¬after.score < before.score := by
  intro before after
  have hmethod : (pricedPair [shareAssertion, priceAssertion]).method =
      (pricedPair [priceAssertion]).method := rfl
  have hsub : (pricedPair [priceAssertion]).test.assertions ⊆
      (pricedPair [shareAssertion, priceAssertion]).test.assertions :=
    List.subset_cons_self _ _
  obtain ⟨_, _, hcaught, _, hscore, _⟩ := more_assertions_weaken_nothing none hmethod hsub
  exact ⟨⟨hmethod, hsub⟩, by decide +kernel, hcaught, hscore⟩

end Mutation

end Adjudicator
