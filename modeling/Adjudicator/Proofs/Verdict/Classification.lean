import Adjudicator.Proofs.Verdict.Vocabulary
import Adjudicator.Verdict.Classification

/-!
# The table of verdicts

What decides a verdict: whether a divergence is reported, whether the code changed after the test,
and what the last change of the code is said to be. Main statement: the kind, the mark of a
regression and the confidence follow a table, and of the histories they and the recommendation
read nothing but the message of the last change of the code and whether it is newer than the test.
-/

namespace Adjudicator.Verdict

variable {a : Analysis} {d : Divergence} {h h' : PairHistory}

/-- The source is newer when the last commits of both are known and that of the test is older. -/
theorem sourceIsNewer_iff :
    sourceIsNewer h = true ↔ ∃ source ∈ h.source, ∃ test ∈ h.test, test.date < source.date := by
  unfold sourceIsNewer
  cases h.source <;> cases h.test <;> simp

/-- The source is a fix when the message of its last commit speaks of one. -/
theorem sourceIsFix_iff :
    sourceIsFix h = true ↔ ∃ source ∈ h.source, Intent.SpeaksOfFix source.message.toList := by
  simp only [sourceIsFix, Option.any_eq_true, Intent.isFix_iff, Option.mem_def]

/-- A test is outdated when the code is newer and its last change is no fix. -/
theorem kindOf_eq_outdatedTest_iff :
    kindOf h = .outdatedTest ↔ ∃ source ∈ h.source, ∃ test ∈ h.test,
      test.date < source.date ∧ ¬Intent.SpeaksOfFix source.message.toList := by
  have hkind : kindOf h = .outdatedTest ↔ sourceIsNewer h = true ∧ ¬sourceIsFix h = true := by
    rw [kindOf]
    cases sourceIsNewer h <;> cases sourceIsFix h <;> decide
  rw [hkind, sourceIsNewer_iff, sourceIsFix_iff]
  constructor
  · rintro ⟨⟨source, hsource, test, htest, hlt⟩, hfix⟩
    exact ⟨source, hsource, test, htest, hlt, fun hspeaks => hfix ⟨source, hsource, hspeaks⟩⟩
  · rintro ⟨source, hsource, test, htest, hlt, hfix⟩
    refine ⟨⟨source, hsource, test, htest, hlt⟩, ?_⟩
    rintro ⟨source', hsource', hspeaks⟩
    obtain rfl := Option.mem_unique hsource hsource'
    exact hfix hspeaks

/-- A divergence is a bug of the code unless the test is outdated. -/
theorem kindOf_eq_codeBug_iff : kindOf h = .codeBug ↔ ¬kindOf h = .outdatedTest := by
  unfold kindOf
  split <;> decide

/-- A fix that leaves a divergence is a bug of the code. -/
theorem kindOf_of_sourceIsFix (hfix : sourceIsFix h = true) : kindOf h = .codeBug := by
  rw [kindOf, hfix, Bool.not_true, Bool.and_false, if_neg Bool.false_ne_true]

/-- The confidence is a sum that is cut off. -/
theorem confidenceOf_eq (h : PairHistory) (link : Link) (kind : DivergenceKind) :
    confidenceOf h link kind =
      min 0.99 (0.7 + (if ∃ source ∈ h.source, Intent.Clear source.summary then 0.1 else 0) +
        (if link.isStrong then 0.05 else 0) + (if kind = .returnValue then 0.1 else 0)) := by
  have hclear : (∃ source ∈ h.source, Intent.Clear source.summary) ↔
      (h.source.any fun c => Intent.isClear c.summary) = true := by
    simp only [Option.any_eq_true, Intent.isClear_iff, Option.mem_def]
  have hsum : ∀ clear strong mismatch : Bool,
      (let base := if clear then 0.7 + 0.1 else 0.7
      let linked := if strong then base + 0.05 else base
      let total := if mismatch then linked + 0.1 else linked
      if highest < total then highest else total) =
      min 0.99 (0.7 + (if clear then 0.1 else 0) + (if strong then 0.05 else 0) +
        (if mismatch then 0.1 else 0)) := by
    decide +kernel
  have h := hsum (h.source.any fun c => Intent.isClear c.summary) link.isStrong
    (kind = .returnValue)
  simpa only [confidenceOf, hclear, decide_eq_true_eq] using h

/-- Where no divergence is found the test passes. -/
theorem classify_of_not_reported
    (hnone : a.detection.found = false ∨ a.detection.divergence = none) : classify a = pass a := by
  have hreported : a.detection.reported? = none := by
    rw [Detection.reported?]
    rcases hnone with hfound | hdivergence
    · rw [hfound, if_neg Bool.false_ne_true]
    · rw [hdivergence, ite_self]
  rw [classify, hreported]

/-- A divergence that is found decides the verdict. -/
theorem classify_of_reported (hfound : a.detection.found = true)
    (hdivergence : a.detection.divergence = some d) : classify a = onDivergence a d := by
  have hreported : a.detection.reported? = some d := by
    rw [Detection.reported?, hfound, if_pos rfl, hdivergence]
  rw [classify, hreported]

/-- The histories enter the verdict through the last message and the order of the changes. -/
theorem onDivergence_congr (hmessage : h.source.map Commit.message = h'.source.map Commit.message)
    (hnewer : sourceIsNewer h = sourceIsNewer h') :
    let v := onDivergence { a with history := h } d
    let v' := onDivergence { a with history := h' } d
    v.kind = v'.kind ∧ v.regression = v'.regression ∧ v.confidence = v'.confidence ∧
      v.recommendation = v'.recommendation := by
  have hany : ∀ f : String → Bool, (h.source.any fun c => f c.message) =
      h'.source.any fun c => f c.message := by
    intro f
    have hmap : ∀ o : Option Commit,
        (o.any fun c => f c.message) = (o.map Commit.message).any f := by
      rintro (_ | c) <;> rfl
    rw [hmap, hmap, hmessage]
  have hfix : sourceIsFix h = sourceIsFix h' := hany fun s => Intent.isFix s.toList
  have hclear : (h.source.any fun c => Intent.isClear c.summary) =
      h'.source.any fun c => Intent.isClear c.summary :=
    hany fun s => Intent.isClear (Text.trim ((Text.stringLines s).headD []))
  have hkind : kindOf h = kindOf h' := by rw [kindOf, kindOf, hnewer, hfix]
  have hconfidence : confidenceOf h = confidenceOf h' := by
    funext link kind
    rw [confidenceOf, confidenceOf, hclear]
  simp only [onDivergence, hkind, hfix, hconfidence, and_self]

/-- Without a reported divergence a test passes. With one, the test is outdated if the code
changed after it for something else than a fix; otherwise the code has a bug, and a regression if
its last change is said to be a fix. The confidence is a sum of what makes the verdict sure, and
histories that agree on the last message and on the order of the changes lead to the same
verdict. -/
theorem classify_by_table (a : Analysis) :
    ((a.detection.found = false ∨ a.detection.divergence = none) →
      (classify a).kind = .passed ∧ (classify a).confidence = 0.99 ∧
        (classify a).regression = false) ∧
    (∀ d, a.detection.found = true → a.detection.divergence = some d →
      ((classify a).kind = .outdatedTest ↔ ∃ source ∈ a.history.source, ∃ test ∈ a.history.test,
        test.date < source.date ∧ ¬Intent.SpeaksOfFix source.message.toList) ∧
      ((classify a).kind = .codeBug ↔ ¬(classify a).kind = .outdatedTest) ∧
      ((classify a).regression = true ↔
        ∃ source ∈ a.history.source, Intent.SpeaksOfFix source.message.toList) ∧
      (classify a).confidence =
        min 0.99
          (0.7 + (if ∃ source ∈ a.history.source, Intent.Clear source.summary then 0.1 else 0)
            + (if a.pair.link.isStrong then 0.05 else 0)
            + (if d.kind = .returnValue then 0.1 else 0))) ∧
    ∀ h h' : PairHistory, h.source.map Commit.message = h'.source.map Commit.message →
      ((∃ source ∈ h.source, ∃ test ∈ h.test, test.date < source.date) ↔
        ∃ source ∈ h'.source, ∃ test ∈ h'.test, test.date < source.date) →
      let v := classify { a with history := h }
      let v' := classify { a with history := h' }
      v.kind = v'.kind ∧ v.regression = v'.regression ∧ v.confidence = v'.confidence ∧
        v.recommendation = v'.recommendation := by
  refine ⟨fun hnone => ?_, fun d hfound hdivergence => ?_, fun h h' hmessage hnewer => ?_⟩
  · rw [classify_of_not_reported hnone]
    exact ⟨rfl, rfl, rfl⟩
  · rw [classify_of_reported hfound hdivergence]
    refine ⟨kindOf_eq_outdatedTest_iff, kindOf_eq_codeBug_iff, ?_, confidenceOf_eq _ _ _⟩
    rw [← sourceIsFix_iff, onDivergence, Bool.and_eq_true, beq_iff_eq]
    exact and_iff_right_of_imp kindOf_of_sourceIsFix
  · rw [← sourceIsNewer_iff, ← sourceIsNewer_iff, ← Bool.eq_iff_iff] at hnewer
    cases hreported : a.detection.reported? with
    | none =>
      simp only [classify, hreported]
      exact ⟨rfl, rfl, rfl, rfl⟩
    | some d =>
      simp only [classify, hreported]
      exact onDivergence_congr hmessage hnewer

end Adjudicator.Verdict
