import Adjudicator.Proofs.Divergence.Explained
import Adjudicator.Proofs.Report.Passing
import Adjudicator.Proofs.Report.Unaided
import Adjudicator.Proofs.Verdict.Classification

/-!
# Reports without contradictions

A report is issued at an early end of an assessment, at its regular end, or for an assessment that
broke off; each place builds its verdict by itself. Main statement: the parts of every issued report
agree with each other and with the analysis behind it, whatever the assistant and the histories
say, and so do the counts over any issued reports.
-/

namespace Adjudicator

open Text

/-! ## Verdicts -/

namespace Verdict

/-- What can be done about a verdict of a kind. -/
def actionsFor : VerdictKind → List Action
  | .codeBug => [.fixCode]
  | .outdatedTest => [.updateTest]
  | .flakyTest => [.addRetry]
  | .environmentIssue => [.checkEnvironment, .investigate]
  | .passed => [.noAction]

/-- A verdict whose parts agree. -/
structure Coherent (v : Verdict) : Prop where
  /-- Who passes is to be trusted and has nothing to do. -/
  passed : v.kind = .passed →
    v.confidence = 0.99 ∧ v.recommendation.action = .noAction ∧ v.recommendation.files = []
  /-- A regression is a bug of the code. -/
  regression : v.regression = true → v.kind = .codeBug
  /-- The action is one for the kind. -/
  action : v.recommendation.action ∈ actionsFor v.kind
  /-- A change is proposed only where code or test has to change. -/
  fix : v.recommendation.fix.isSome = true → v.kind = .codeBug ∨ v.kind = .outdatedTest
  /-- The lowest confidence. -/
  low : 0.3 ≤ v.confidence
  /-- The highest confidence. -/
  high : v.confidence ≤ 0.99

/-- The confidence of a verdict on a divergence is never extreme. -/
theorem confidenceOf_bounds (h : PairHistory) (link : Link) (kind : DivergenceKind) :
    0.3 ≤ confidenceOf h link kind ∧ confidenceOf h link kind ≤ 0.99 := by
  have hsum : ∀ clear strong mismatch : Bool,
      let total := min (0.99 : Float) (0.7 + (if clear then 0.1 else 0) +
        (if strong then 0.05 else 0) + (if mismatch then 0.1 else 0))
      0.3 ≤ total ∧ total ≤ 0.99 := by
    decide
  have hbounds := hsum (decide (∃ source ∈ h.source, Intent.Clear source.summary)) link.isStrong
    (kind = .returnValue)
  rw [confidenceOf_eq]
  simpa only [decide_eq_true_eq] using hbounds

/-- No fixed confidence is extreme either. -/
private theorem fixed_bounds :
    ∀ x ∈ [passing, Screening.screened, Screening.unjudged], 0.3 ≤ x ∧ x ≤ 0.99 := by
  decide

/-- The verdict that a test passes is coherent. -/
theorem coherent_pass (a : Analysis) : (pass a).Coherent where
  passed _ := ⟨rfl, rfl, rfl⟩
  regression := nofun
  action := List.mem_singleton_self _
  fix := nofun
  low := (fixed_bounds passing (by simp)).1
  high := (fixed_bounds passing (by simp)).2

/-- A verdict on a divergence is coherent. -/
theorem coherent_onDivergence (a : Analysis) (d : Divergence) : (onDivergence a d).Coherent where
  passed h := absurd h (kindOf_ne_passed a.history)
  regression h := by
    have hkind : (kindOf a.history == .codeBug) = true := (Bool.and_eq_true_iff.mp h).1
    exact eq_of_beq hkind
  action := by
    change Recommendation.actionFor (kindOf a.history) ∈ actionsFor (kindOf a.history)
    cases kindOf a.history <;> decide
  fix := nofun
  low := (confidenceOf_bounds _ _ _).1
  high := (confidenceOf_bounds _ _ _).2

/-- Every verdict that an analysis gets is coherent. -/
theorem coherent_classify (a : Analysis) : (classify a).Coherent := by
  unfold classify
  cases a.detection.reported? with
  | some d => exact coherent_onDivergence a d
  | none => exact coherent_pass a

/-- A proposed change does not touch the rest of a verdict. -/
theorem Coherent.proposing {v : Verdict} (h : v.Coherent) {fix : Option String}
    (hfix : fix.isSome = true → v.kind = .codeBug ∨ v.kind = .outdatedTest) :
    (v.proposing fix).Coherent :=
  { passed := h.passed, regression := h.regression, action := h.action, fix := hfix, low := h.low
    high := h.high }

/-- With or without an assistant a determined verdict is coherent. -/
theorem coherent_of_yields_determine {assistant : Option (Assistant Course)} {a : Analysis}
    {v : Verdict} (h : (determine assistant a).Yields v) : v.Coherent := by
  by_cases hkind : (classify a).kind = .codeBug ∨ (classify a).kind = .outdatedTest
  · obtain ⟨fix, hfix⟩ := exists_determine_eq assistant a
    rw [hfix, map_eq_pure_bind, Course.yields_bind] at h
    obtain ⟨proposed, _, h⟩ := h
    obtain rfl := Course.yields_done.mp h
    exact (coherent_classify a).proposing fun _ => hkind
  · rw [determine_of_not_actionable assistant (not_or.mp hkind)] at h
    obtain rfl := Course.yields_done.mp h
    exact coherent_classify a

end Verdict

namespace Screening

/-- The verdict that nothing can be judged is coherent. -/
theorem coherent_unjudgedVerdict (pair : Pair) (reason explanation : String) :
    (unjudgedVerdict pair reason explanation).Coherent where
  passed := nofun
  regression := nofun
  action := List.mem_cons_of_mem _ (List.mem_singleton_self _)
  fix := nofun
  low := (Verdict.fixed_bounds unjudged (by simp)).1
  high := (Verdict.fixed_bounds unjudged (by simp)).2

/-- The verdict on a screened failure, where kind and action go together. -/
private theorem coherent_verdictOn {kind : VerdictKind} {action : Action}
    (hkind : kind ≠ .passed) (haction : action ∈ Verdict.actionsFor kind) (reason : String)
    (message : List Char) (pair : Pair) :
    (verdictOn kind action reason message pair).Coherent where
  passed h := absurd h hkind
  regression := nofun
  action := haction
  fix := nofun
  low := (Verdict.fixed_bounds screened (by simp)).1
  high := (Verdict.fixed_bounds screened (by simp)).2

/-- Every verdict that a pair can have without a search is coherent. -/
theorem Issues.coherent {pair : Pair} {v : Verdict} (h : Issues pair v) : v.Coherent := by
  cases h with
  | unjudged reason explanation => exact coherent_unjudgedVerdict pair reason explanation
  | environment reason message => exact coherent_verdictOn (by decide) (by decide) _ _ _
  | timing reason message => exact coherent_verdictOn (by decide) (by decide) _ _ _

end Screening

/-! ## Reports -/

/-- A report that says what the verdict behind it says, and whose parts agree. -/
structure PairReport.Consistent (r : PairReport) (d : Details) : Prop where
  /-- The analysis and the verdict behind the report. -/
  details : r.details = some d
  /-- The kind is that of the verdict. -/
  kind : r.kind = d.verdict.kind
  /-- The confidence is that of the verdict. -/
  confidence : r.confidence = d.verdict.confidence
  /-- The mark of a regression is that of the verdict. -/
  regression : r.regression = d.verdict.regression
  /-- The first suggestion is what is recommended, in words. -/
  suggestion : r.suggestions.head? = some d.verdict.recommendation.description
  /-- The parts of the verdict agree. -/
  coherent : d.verdict.Coherent

/-- A report of a coherent verdict is consistent. -/
theorem PairReport.consistent_of {v : Verdict} (h : v.Coherent) (a : Analysis) :
    (PairReport.of a v).Consistent ⟨a, v⟩ :=
  ⟨rfl, rfl, rfl, rfl, rfl, h⟩

namespace Cascade

/-- What holds of the report of every strategy, and of the answer without any report, holds of the
answer of all. -/
theorem of_yields_detect {P : Detection → Prop} (hnothing : P nothing)
    {strategies : List (Strategy Course)} {e : Evidence}
    (h : ∀ s ∈ strategies, ∀ d, (s.detect e).Yields (some d) → P d) {d : Detection}
    (hd : (detect strategies e).Yields d) : P d := by
  induction strategies with
  | nil =>
    obtain rfl := Course.yields_done.mp hd
    exact hnothing
  | cons s rest ih =>
    rw [detect, Course.yields_bind] at hd
    obtain ⟨found, hfound, hd⟩ := hd
    cases found with
    | some found =>
      obtain rfl := Course.yields_done.mp hd
      exact h s List.mem_cons_self d hfound
    | none => exact ih (fun t ht => h t (List.mem_cons_of_mem s ht)) hd

end Cascade

/-- A detection that names a divergence exactly when it has found one. -/
def Detection.Named (d : Detection) : Prop :=
  d.found = d.divergence.isSome

/-- A reported divergence is named. -/
theorem Detection.named_reported (stage : Stage) (divergence : Divergence) (confidence : Float)
    (details : String) : (Detection.reported stage divergence confidence details).Named :=
  rfl

/-- A named detection reports nothing exactly when nothing is found. -/
theorem Detection.Named.reported?_eq_none_iff {d : Detection} (h : d.Named) :
    d.reported? = none ↔ d.found = false := by
  rw [Detection.reported?, h]
  cases d.divergence <;> simp

/-! ## Stages -/

/-- What a failure message gives is named. -/
theorem Failure.named_of_detect? {pair : Pair} {message : Option String} {d : Detection}
    (h : detect? pair message = some d) : d.Named := by
  cases message with
  | none => cases h
  | some message =>
    obtain ⟨divergence, confidence, details, hreported⟩ := exists_interpret_eq_reported
      (trim message.toList) pair.test.firstAssertionLine pair.method.line
    simp only [detect?, hreported] at h
    split at h
    · cases h
    · obtain rfl := Option.some.inj h
      exact Detection.named_reported _ _ _ _

/-- What the assistant's reply gives is named. -/
theorem Reply.named_of_detect? {pair : Pair} {reply : String} {d : Detection}
    (h : detect? pair reply = some d) : d.Named := by
  obtain ⟨finding, _, rfl⟩ := Option.map_eq_some_iff.mp h
  exact Detection.named_reported _ _ _ _

/-- What the assertions give is named. -/
theorem Inference.named_of_detect? {pair : Pair} {d : Detection} (h : detect? pair = some d) :
    d.Named := by
  obtain ⟨i, _, rfl⟩ := Option.map_eq_some_iff.mp h
  exact Detection.named_reported _ _ _ _

/-- What the outlines and values give is named. -/
theorem Static.named_of_detect? {pair : Pair} {file : Option (List Char)}
    {grammars : Outline.Grammars} {d : Detection} (h : detect? pair file grammars = some d) :
    d.Named := by
  cases reports_of_detect? h <;> exact Detection.named_reported _ _ _ _

namespace Cascade

private theorem named_of_assistantStrategy {assistant : Assistant Course} {e : Evidence}
    {d : Detection} (h : ((assistantStrategy assistant).detect e).Yields (some d)) : d.Named := by
  simp only [assistantStrategy, Course.yields_bind] at h
  obtain ⟨available, _, h⟩ := h
  cases available with
  | false => cases Course.yields_done.mp h
  | true =>
    simp only [if_true, Course.yields_bind] at h
    obtain ⟨reply, _, h⟩ := h
    cases reply with
    | ok reply => exact Reply.named_of_detect? (Course.yields_done.mp h).symm
    | error e => cases Course.yields_done.mp h

/-- The search names a divergence exactly when it finds one. -/
theorem named_of_yields_detect {assistant : Option (Assistant Course)}
    {grammars : Outline.Grammars} {e : Evidence} {d : Detection}
    (h : (detect (strategies assistant grammars) e).Yields d) : d.Named := by
  refine of_yields_detect (P := Detection.Named) rfl (fun s hs d hd => ?_) h
  simp only [strategies, List.mem_cons, List.mem_append, Option.mem_toList, Option.map_eq_some_iff,
    List.not_mem_nil, or_false] at hs
  rcases hs with rfl | ⟨assistant, _, rfl⟩ | rfl | rfl
  · exact Failure.named_of_detect? (Course.yields_done.mp hd).symm
  · exact named_of_assistantStrategy hd
  · exact Static.named_of_detect? (Course.yields_done.mp hd).symm
  · exact Inference.named_of_detect? (Course.yields_done.mp hd).symm

end Cascade

/-! ## Assessments -/

namespace Assessor

/-- Whether a pair is searched for a divergence: test and method have a body, and the failure says
something about the code. -/
def Searched (a : Assessor Course) (pair : Pair) : Prop :=
  blank pair.test.body.toList = false ∧ blank pair.method.body.toList = false ∧
    ∀ message ∈ a.failureOf? pair, Screening.failure? message.toList pair = none

private theorem early?_eq_none_iff {a : Assessor Course} {pair : Pair} :
    early? pair (a.failureOf? pair) = none ↔ a.Searched pair := by
  have hlacks : Screening.insufficient? pair = none ↔
      blank pair.test.body.toList = false ∧ blank pair.method.body.toList = false := by
    rw [Screening.insufficient?, Screening.lacksBody]
    cases blank pair.test.body.toList <;> cases blank pair.method.body.toList <;> simp
  rw [Searched, ← and_assoc, ← hlacks, early?]
  cases Screening.insufficient? pair with
  | some v => simp
  | none => cases a.failureOf? pair <;> simp

/-- A report that an assessment yields, or the one for an assessment that broke off. -/
def Issued (report : PairReport) : Prop :=
  (∃ (a : Assessor Course) (pair : Pair) (file : Option String),
    (a.assess pair file).Yields report) ∨ ∃ pair, report = unfinished pair

private theorem consistent_unfinished (pair : Pair) :
    (unfinished pair).Consistent ⟨unsearched pair Screening.unjudged none,
      Screening.unfinished pair⟩ :=
  PairReport.consistent_of (Screening.coherent_unjudgedVerdict _ _ _) _

/-- An assessment yields a consistent report, which passes exactly when the pair is searched and
nothing is found. -/
private theorem consistent_of_yields_assess {a : Assessor Course} {pair : Pair}
    {file : Option String} {report : PairReport} (h : (a.assess pair file).Yields report) :
    ∃ d, report.Consistent d ∧ d.analysis.pair = pair ∧
      (a.Searched pair → (Cascade.detect (Cascade.strategies a.assistant a.grammars)
        ⟨pair, a.failureOf? pair, file⟩).Yields d.analysis.detection) ∧
      (report.kind = .passed ↔ a.Searched pair ∧ d.analysis.detection.found = false) := by
  unfold assess at h
  cases he : early? pair (a.failureOf? pair) with
  | some early =>
    have hnot : ¬a.Searched pair := by
      rw [← early?_eq_none_iff, he]
      exact nofun
    simp only [he] at h
    obtain rfl := Course.yields_done.mp h
    have hkind := kind_ne_passed_of_early? he
    obtain ⟨failure, v, rfl, hv⟩ := exists_screened_of_early? he
    exact ⟨_, PairReport.consistent_of hv.coherent _, rfl, fun hs => absurd hs hnot,
      iff_of_false hkind fun hs => hnot hs.1⟩
  | none =>
    have hsearched := early?_eq_none_iff.mp he
    simp only [he, Course.yields_bind] at h
    obtain ⟨detection, hdetection, ⟨expectation, behavior⟩, _, history, _, v, hv, hr⟩ := h
    obtain rfl := Course.yields_done.mp hr
    refine ⟨_, PairReport.consistent_of (Verdict.coherent_of_yields_determine hv) _, rfl,
      fun _ => hdetection, ?_⟩
    rw [PairReport.of, Verdict.kind_of_yields_determine hv, Verdict.kind_classify_eq_passed_iff,
      (Cascade.named_of_yields_detect hdetection).reported?_eq_none_iff]
    exact (and_iff_right hsearched).symm

/-- An issued report is consistent with something behind it. -/
theorem Issued.exists_consistent {report : PairReport} (h : Issued report) :
    ∃ d, report.Consistent d := by
  rcases h with ⟨a, pair, file, h⟩ | ⟨pair, rfl⟩
  · obtain ⟨d, hd, _⟩ := consistent_of_yields_assess h
    exact ⟨d, hd⟩
  · exact ⟨_, consistent_unfinished pair⟩

end Assessor

/-! ## Counts -/

namespace Report

/-- Each report is counted once in all, once under its kind, and once more when it is a
regression. -/
private theorem foldl_add (results : List PairReport) (s : Summary) :
    results.foldl Summary.add s =
      { total := s.total + results.length
        codeBug := s.codeBug + (ofKind ⟨results⟩ .codeBug).length
        outdatedTest := s.outdatedTest + (ofKind ⟨results⟩ .outdatedTest).length
        flakyTest := s.flakyTest + (ofKind ⟨results⟩ .flakyTest).length
        environmentIssue := s.environmentIssue + (ofKind ⟨results⟩ .environmentIssue).length
        passed := s.passed + (ofKind ⟨results⟩ .passed).length
        regressions := s.regressions + (results.filter PairReport.regression).length } := by
  induction results generalizing s with
  | nil => rfl
  | cons p rest ih =>
    rw [List.foldl_cons, ih]
    simp only [Summary.add, ofKind]
    cases hkind : p.kind <;> cases hregression : p.regression <;>
      simp [Summary.countOne, hkind, hregression, Nat.add_assoc, Nat.add_comm 1]

/-- The number of verdicts of a kind is that of the reports with such a verdict. -/
theorem count_summary (r : Report) (kind : VerdictKind) :
    r.summary.count kind = (r.ofKind kind).length := by
  rw [summary, foldl_add]
  cases kind <;> exact Nat.zero_add _

/-- The regressions are the reports that say so. -/
theorem regressions_summary (r : Report) :
    r.summary.regressions = (r.results.filter PairReport.regression).length := by
  rw [summary, foldl_add]
  exact Nat.zero_add _

/-- The total is the number of reports. -/
theorem total_summary (r : Report) : r.summary.total = r.results.length := by
  rw [summary, foldl_add]
  exact Nat.zero_add _

/-- Every verdict has one of the kinds. -/
theorem sum_summary (r : Report) :
    r.summary.codeBug + r.summary.outdatedTest + r.summary.flakyTest +
      r.summary.environmentIssue + r.summary.passed = r.summary.total := by
  obtain ⟨results⟩ := r
  rw [summary, foldl_add]
  simp only [ofKind, Nat.zero_add]
  induction results with
  | nil => rfl
  | cons p rest ih =>
    cases hkind : p.kind <;> simp [hkind] <;> omega

/-- Where regressions are bugs of the code there are no more of them. -/
theorem regressions_le_codeBug {r : Report}
    (h : ∀ p ∈ r.results, p.regression = true → p.kind = .codeBug) :
    r.summary.regressions ≤ r.summary.codeBug := by
  have hfilter : r.results.filter PairReport.regression =
      (r.ofKind .codeBug).filter PairReport.regression := by
    rw [ofKind, List.filter_filter]
    refine List.filter_congr fun p hp => ?_
    cases hr : p.regression with
    | false => rfl
    | true => rw [h p hp hr]; rfl
  calc r.summary.regressions
      = ((r.ofKind .codeBug).filter PairReport.regression).length := by
        rw [regressions_summary, hfilter]
    _ ≤ (r.ofKind .codeBug).length := List.length_filter_le ..
    _ = r.summary.codeBug := (count_summary r .codeBug).symm

end Report

/-- The parts of every report agree. What an assessment yields has passed exactly when test and
method have bodies, the failure is not screened and the search has found nothing. The summary of
issued reports counts each of them under its kind, its counts add up to its total, which is the
number of the reports, and no more of them are regressions than bugs of the code. -/
theorem Assessor.issued_reports_consistent :
    (∀ (a : Assessor Course) (pair : Pair) (file : Option String) (report : PairReport),
      (a.assess pair file).Yields report →
      ∃ d, report.Consistent d ∧ d.analysis.pair = pair ∧
        (a.Searched pair → (Cascade.detect (Cascade.strategies a.assistant a.grammars)
          ⟨pair, a.failureOf? pair, file⟩).Yields d.analysis.detection) ∧
        (report.kind = .passed ↔ a.Searched pair ∧ d.analysis.detection.found = false)) ∧
    (∀ pair : Pair, ∃ d, (unfinished pair).Consistent d ∧ d.analysis.pair = pair ∧
      (unfinished pair).kind = .environmentIssue) ∧
    ∀ r : Report, (∀ p ∈ r.results, Assessor.Issued p) →
      (r.summary.codeBug + r.summary.outdatedTest + r.summary.flakyTest +
          r.summary.environmentIssue + r.summary.passed = r.summary.total ∧
        r.summary.total = r.results.length ∧
        r.summary.regressions ≤ r.summary.codeBug) ∧
      (∀ kind, r.summary.count kind = (r.ofKind kind).length) ∧
      r.summary.regressions = (r.results.filter PairReport.regression).length := by
  refine ⟨fun a pair file report h => consistent_of_yields_assess h,
    fun pair => ⟨_, consistent_unfinished pair, rfl, rfl⟩,
    fun r h => ⟨⟨r.sum_summary, r.total_summary, r.regressions_le_codeBug ?_⟩, r.count_summary,
      r.regressions_summary⟩⟩
  intro p hp hregression
  obtain ⟨d, hd⟩ := (h p hp).exists_consistent
  rw [hd.kind]
  exact hd.coherent.regression (hd.regression ▸ hregression)

/-- A test that asserts nothing passes, and no regression is counted next to a pair whose assessment
broke off. -/
theorem Assessor.idle_reports_consistent :
    ∃ report, ((hearing []).assess idlePair none).Yields report ∧ report.kind = .passed ∧
      (∃ d, report.Consistent d ∧ d.analysis.pair = idlePair ∧
        ((hearing []).Searched idlePair → (Cascade.detect
          (Cascade.strategies (hearing []).assistant (hearing []).grammars)
          ⟨idlePair, (hearing []).failureOf? idlePair, none⟩).Yields d.analysis.detection) ∧
        (report.kind = .passed ↔
          (hearing []).Searched idlePair ∧ d.analysis.detection.found = false)) ∧
      let r : Report := ⟨[report, unfinished idlePair]⟩
      (∀ p ∈ r.results, Assessor.Issued p) ∧
        (r.summary.codeBug + r.summary.outdatedTest + r.summary.flakyTest +
            r.summary.environmentIssue + r.summary.passed = r.summary.total ∧
          r.summary.total = 2 ∧ r.summary.regressions ≤ r.summary.codeBug) ∧
        (∀ kind, r.summary.count kind = (r.ofKind kind).length) ∧
        r.summary.regressions = (r.results.filter PairReport.regression).length := by
  obtain ⟨report, h, hkind⟩ : ∃ report, ((hearing []).assess idlePair none).Yields report ∧
      report.kind = .passed :=
    exists_passed_of_nothing rfl (Option.isNone_iff_eq_none.mp (by decide)) rfl
      (Option.isNone_iff_eq_none.mp (by decide)) (Option.isNone_iff_eq_none.mp (by decide))
  have hissued : ∀ p ∈ [report, unfinished idlePair], Assessor.Issued p := by
    intro p hp
    rcases List.mem_cons.mp hp with rfl | hp
    · exact .inl ⟨_, _, _, h⟩
    · exact .inr ⟨idlePair, List.mem_singleton.mp hp⟩
  exact ⟨report, h, hkind, issued_reports_consistent.1 _ _ _ _ h, hissued,
    issued_reports_consistent.2.2 ⟨_⟩ hissued⟩

end Adjudicator
