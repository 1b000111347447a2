import Adjudicator.Proofs.Divergence.Cascade
import Adjudicator.Proofs.Report.Course

/-!
# Which tests pass

A pair passes when its assessment is not ended early and no stage of the search reports a
divergence. Main statement: a test whose first failure in a run has a message that is not blank
does not pass, whatever the assistant and the histories say; a failure without a message changes
nothing.
-/

namespace Adjudicator

open Text

/-- A message that is not blank reports a divergence. -/
theorem Failure.exists_detect? (pair : Pair) {message : String}
    (h : blank message.toList = false) :
    ∃ d, detect? pair (some message) = some d ∧ d.reported?.isSome = true := by
  obtain ⟨divergence, confidence, details, hreported⟩ := exists_interpret_eq_reported
    (trim message.toList) pair.test.firstAssertionLine pair.method.line
  exact ⟨_, detect?_of_not_blank pair h, by rw [hreported]; rfl⟩

/-! ## Kinds of verdicts -/

namespace Verdict

/-- A divergence never passes. -/
theorem kindOf_ne_passed (h : PairHistory) : kindOf h ≠ .passed := by
  unfold kindOf
  split <;> decide

/-- What passes is what has no reported divergence. -/
theorem kind_classify_eq_passed_iff {a : Analysis} :
    (classify a).kind = .passed ↔ a.detection.reported? = none := by
  unfold classify
  cases a.detection.reported? with
  | none => exact iff_of_true rfl rfl
  | some d => exact iff_of_false (kindOf_ne_passed a.history) (Option.some_ne_none d)

private theorem kind_of_yields_withFix {assistant : Assistant Course} {a : Analysis}
    {v w : Verdict} (h : (withFix assistant a v).Yields w) : w.kind = v.kind := by
  simp only [withFix, Course.yields_bind] at h
  obtain ⟨available, _, h⟩ := h
  cases available with
  | false =>
    obtain rfl := Course.yields_done.mp h
    rfl
  | true =>
    simp only [if_true, Course.yields_bind] at h
    obtain ⟨reply, _, h⟩ := h
    cases reply with
    | ok f =>
      obtain rfl := Course.yields_done.mp h
      rfl
    | error e =>
      obtain rfl := Course.yields_done.mp h
      rfl

/-- A proposed fix does not change the kind. -/
theorem kind_of_yields_determine {assistant : Option (Assistant Course)} {a : Analysis}
    {v : Verdict} (h : (determine assistant a).Yields v) : v.kind = (classify a).kind := by
  unfold determine at h
  cases assistant with
  | none => rw [Course.yields_done.mp h]
  | some assistant =>
    simp only [] at h
    split at h
    · exact kind_of_yields_withFix h
    · rw [Course.yields_done.mp h]

end Verdict

/-! ## Verdicts without a search -/

namespace Screening

/-- The verdicts that a pair can have without a search. -/
inductive Issues (pair : Pair) : Verdict → Prop where
  /-- The pair cannot be judged. -/
  | unjudged (reason explanation : String) : Issues pair (unjudgedVerdict pair reason explanation)
  /-- The failure comes from the environment. -/
  | environment (reason : String) (message : List Char) :
      Issues pair (verdictOn .environmentIssue .checkEnvironment reason message pair)
  /-- The failure depends on timing. -/
  | timing (reason : String) (message : List Char) :
      Issues pair (verdictOn .flakyTest .addRetry reason message pair)

variable {pair : Pair} {v : Verdict}

/-- The verdict on a blank body is one that a pair can have without a search. -/
theorem issues_of_insufficient? (h : insufficient? pair = some v) : Issues pair v := by
  unfold insufficient? at h
  split at h
  · obtain rfl := Option.some.inj h
    exact .unjudged _ _
  · cases h

/-- A verdict on a failure message is one that a pair can have without a search. -/
theorem issues_of_failure? {message : List Char} (h : failure? message pair = some v) :
    Issues pair v := by
  unfold failure? at h
  cases hm : environmentPattern.find? message with
  | some m =>
    rw [hm] at h
    obtain rfl := Option.some.inj h
    exact .environment _ _
  | none =>
    rw [hm] at h
    obtain ⟨m, _, rfl⟩ := Option.map_eq_some_iff.mp h
    exact .timing _ _

/-- No pair passes without a search. -/
theorem Issues.kind_ne_passed (h : Issues pair v) : v.kind ≠ .passed := by
  cases h <;> exact nofun

end Screening

namespace Assessor

/-- An assessment that is ended early reports a verdict without a search. -/
theorem exists_screened_of_early? {pair : Pair} {failure : Option String} {report : PairReport}
    (h : early? pair failure = some report) :
    ∃ (failure : Option String) (v : Verdict),
      report = screened pair failure v ∧ Screening.Issues pair v := by
  unfold early? at h
  cases hi : Screening.insufficient? pair with
  | some v =>
    rw [hi] at h
    obtain rfl := Option.some.inj h
    exact ⟨none, v, rfl, Screening.issues_of_insufficient? hi⟩
  | none =>
    rw [hi] at h
    obtain ⟨v, hv, rfl⟩ := Option.map_eq_some_iff.mp h
    obtain ⟨message, _, hv⟩ := Option.bind_eq_some_iff.mp hv
    exact ⟨failure, v, rfl, Screening.issues_of_failure? hv⟩

/-- What ends an assessment early does not pass. -/
theorem kind_ne_passed_of_early? {pair : Pair} {failure : Option String} {report : PairReport}
    (h : early? pair failure = some report) : report.kind ≠ .passed := by
  obtain ⟨failure, v, rfl, hv⟩ := exists_screened_of_early? h
  exact hv.kind_ne_passed

variable {a : Assessor Course} {pair : Pair} {file : Option String}

/-- A report is that of an early end, or its kind is decided by what the search found. -/
theorem kind_of_yields_assess {report : PairReport} (h : (a.assess pair file).Yields report) :
    early? pair (a.failureOf? pair) = some report ∨
    early? pair (a.failureOf? pair) = none ∧
      ∃ d, (Cascade.detect (Cascade.strategies a.assistant a.grammars)
        ⟨pair, a.failureOf? pair, file⟩).Yields d ∧
        (report.kind = .passed ↔ d.reported? = none) := by
  unfold assess at h
  cases he : early? pair (a.failureOf? pair) with
  | some early =>
    simp only [he] at h
    exact Or.inl (congrArg some (Course.yields_done.mp h).symm)
  | none =>
    simp only [he, Course.yields_bind] at h
    obtain ⟨d, hd, ⟨expectation, behavior⟩, _, history, _, v, hv, hr⟩ := h
    refine Or.inr ⟨rfl, d, hd, ?_⟩
    obtain rfl := Course.yields_done.mp hr
    rw [PairReport.of, Verdict.kind_of_yields_determine hv, Verdict.kind_classify_eq_passed_iff]

/-- Which pairs can pass. -/
theorem exists_passed_iff :
    (∃ report, (a.assess pair file).Yields report ∧ report.kind = .passed) ↔
      early? pair (a.failureOf? pair) = none ∧
      ∃ d, (Cascade.detect (Cascade.strategies a.assistant a.grammars)
        ⟨pair, a.failureOf? pair, file⟩).Yields d ∧ d.reported? = none := by
  constructor
  · rintro ⟨report, h, hkind⟩
    rcases kind_of_yields_assess h with he | ⟨he, d, hd, hiff⟩
    · exact absurd hkind (kind_ne_passed_of_early? he)
    · exact ⟨he, d, hd, hiff.mp hkind⟩
  · rintro ⟨he, d, hd, hnone⟩
    obtain ⟨⟨expectation, behavior⟩, hdescribe⟩ := (a.describe pair).exists_yields
    obtain ⟨history, hhistory⟩ := (a.history pair).exists_yields
    let analysis : Analysis :=
      { pair, expectation, behavior, detection := d, history, failure := a.failureOf? pair }
    obtain ⟨v, hv⟩ := (Verdict.determine a.assistant analysis).exists_yields
    refine ⟨.of analysis v, ?_, ?_⟩
    · unfold assess
      simp only [he, Course.yields_bind]
      exact ⟨d, hd, _, hdescribe, history, hhistory, v, hv, .done _⟩
    · rw [PairReport.of, Verdict.kind_of_yields_determine hv]
      exact Verdict.kind_classify_eq_passed_iff.mpr hnone

/-- Without an assistant a pair can pass when the run and the numbers say nothing. -/
theorem exists_passed_of_nothing (hassistant : a.assistant = none)
    (hearly : early? pair (a.failureOf? pair) = none)
    (hfailure : Failure.detect? pair (a.failureOf? pair) = none)
    (hstatic : Static.detect? pair (file.map String.toList) a.grammars = none)
    (hinference : Inference.detect? pair = none) :
    ∃ report, (a.assess pair file).Yields report ∧ report.kind = .passed := by
  refine exists_passed_iff.mpr ⟨hearly, Cascade.nothing, ?_, rfl⟩
  simp only [hassistant, Cascade.strategies, Option.map_none, Option.toList_none, List.nil_append,
    Cascade.detect, Cascade.failureStrategy, Cascade.staticStrategy, Cascade.inferenceStrategy,
    hfailure, hstatic, hinference, Course.pure_eq_done, Course.done_bind, Course.yields_done]

/-- A pair whose test asserts nothing. -/
def idlePair : Pair :=
  { test :=
      { name := "testCalculate", file := "src/test/java/CalcTest.java", line := 1, endLine := 1
        framework := .junit5, assertions := [], body := "runs();" }
    method :=
      { name := "calculate", file := "src/main/java/Calc.java", line := 1, endLine := 1
        parameters := [], result := none, body := "return price;", owner := some "Calc" }
    confidence := 0.8, link := .callGraph }

/-- An assessor with a run in which the test of that pair fails once for each message. -/
def hearing (messages : List (Option String)) : Assessor Course :=
  { archive := Course.archive
    run := some
      { outcomes := messages.map fun message =>
          { name := "CalcTest.testCalculate", status := .failed, message } }
    historyLimit := 10 }

/-- A test whose first failure of a run has a message that is not blank does not pass. A first
failure without a message changes nothing: the report is the one that there is without a run. -/
theorem failed_test_does_not_pass {run : TestRun} {o : TestOutcome} (hrun : a.run = some run)
    (hfirst : run.outcomes.find? (fun o =>
      o.status = .failed && TestRun.namesMatch o.name.toList pair.test.name.toList) = some o) :
    (∀ message, o.message = some message → blank message.toList = false →
      ∀ report, (a.assess pair file).Yields report → report.kind ≠ .passed) ∧
    (o.message = none → a.assess pair file = { a with run := none }.assess pair file) := by
  have hfailure : a.failureOf? pair = o.message := by
    simp only [failureOf?, hrun, Option.bind_some, TestRun.failureOf?, hfirst]
  constructor
  · intro message hmessage hblank report hreport hkind
    obtain ⟨_, d, hd, hnone⟩ := exists_passed_iff.mp ⟨report, hreport, hkind⟩
    obtain ⟨found, hfound, hsome⟩ := Failure.exists_detect? pair hblank
    rw [hfailure, hmessage, Cascade.detect_strategies _ hfound] at hd
    rw [Course.yields_done.mp hd] at hnone
    rw [hnone] at hsome
    cases hsome
  · intro hmessage
    have hfailure' : ({ a with run := none } : Assessor Course).failureOf? pair = none := rfl
    unfold assess
    rw [hfailure, hmessage, hfailure']
    rfl

/-- A failed comparison does not pass. -/
theorem failed_comparison_does_not_pass :
    blank "expected:<90> but was:<85>".toList = false ∧ ∀ report,
      ((hearing [some "expected:<90> but was:<85>"]).assess idlePair none).Yields report →
        report.kind ≠ .passed :=
  ⟨by decide, (failed_test_does_not_pass rfl rfl).1 _ rfl (by decide)⟩

/-- The test of the pair fails in the run, and yet the pair can pass. -/
def PassesThoughFailed (messages : List (Option String)) : Prop :=
  (∃ run o, (hearing messages).run = some run ∧ o ∈ run.outcomes ∧ o.status = .failed ∧
    TestRun.namesMatch o.name.toList idlePair.test.name.toList = true) ∧
  ∃ report, ((hearing messages).assess idlePair none).Yields report ∧ report.kind = .passed

private theorem passesThoughFailed_of_early {first : Option String} {others : List (Option String)}
    (hearly : (early? idlePair first).isNone = true)
    (hfailure : (Failure.detect? idlePair first).isNone = true) :
    PassesThoughFailed (first :: others) := by
  have hname : TestRun.namesMatch "CalcTest.testCalculate".toList idlePair.test.name.toList =
      true := by decide
  have hfirst : (hearing (first :: others)).failureOf? idlePair = first := by
    simp only [failureOf?, hearing, Option.bind_some, TestRun.failureOf?, List.map_cons,
      List.find?_cons, hname, decide_true, Bool.and_self]
  have hstatic : (Static.detect? idlePair none).isNone = true := by decide
  have hinference : (Inference.detect? idlePair).isNone = true := by decide
  refine ⟨⟨_, _, rfl, List.mem_cons_self, rfl, hname⟩, ?_⟩
  refine exists_passed_of_nothing rfl ?_ ?_ (Option.isNone_iff_eq_none.mp hstatic)
    (Option.isNone_iff_eq_none.mp hinference)
  · rw [hfirst]
    exact Option.isNone_iff_eq_none.mp hearly
  · rw [hfirst]
    exact Option.isNone_iff_eq_none.mp hfailure

/-- Without a message, with a blank one, and with one that is not that of the first failure, a
failed test can pass. -/
theorem failed_test_can_pass :
    PassesThoughFailed [none] ∧ PassesThoughFailed [some " "] ∧
      PassesThoughFailed [none, some "expected:<90> but was:<85>"] :=
  ⟨passesThoughFailed_of_early (by decide) (by decide),
    passesThoughFailed_of_early (by decide) (by decide),
    passesThoughFailed_of_early (by decide) (by decide)⟩

end Assessor

end Adjudicator
