import Adjudicator.Assistant.Answer
import Adjudicator.History.Commit
import Adjudicator.Verdict.Intent
import Adjudicator.Verdict.Recommendation

/-!
# Classification

A divergence is judged by who changed last. When the code is newer than the test and was not
changed to fix something, the test is outdated; otherwise the code has a bug, and a regression if
its last change was a fix. Without a divergence the test passes.
-/

namespace Adjudicator

/-- Everything that is known about a pair. -/
structure Analysis where
  /-- The pair. -/
  pair : Pair
  /-- What the test expects. -/
  expectation : Expectation := {}
  /-- What the method does. -/
  behavior : Behavior := {}
  /-- The result of the search for a divergence. -/
  detection : Detection
  /-- What the histories say. -/
  history : PairHistory := {}
  /-- The message of a real failure. -/
  failure : Option String := none
deriving Repr, Inhabited

namespace Verdict

open Text

/-- Confidence that a test passes. -/
def passing : Float :=
  0.99

/-- The highest confidence. -/
def highest : Float :=
  0.99

/-- Whether the code was changed after the test. -/
def sourceIsNewer (h : PairHistory) : Bool :=
  match h.source, h.test with
  | some source, some test => test.date < source.date
  | _, _ => false

/-- Whether the last change of the code was a fix. -/
def sourceIsFix (h : PairHistory) : Bool :=
  h.source.any fun c => Intent.isFix c.message.toList

/-- The kind of the verdict on a divergence. -/
def kindOf (h : PairHistory) : VerdictKind :=
  if sourceIsNewer h && !sourceIsFix h then .outdatedTest else .codeBug

/-- Confidence of the verdict on a divergence: a clear message, a strong link and a mismatch of
values make it larger. -/
def confidenceOf (h : PairHistory) (link : Link) (kind : DivergenceKind) : Float :=
  let clear := h.source.any fun c => Intent.isClear c.summary
  let base := if clear then 0.7 + 0.1 else 0.7
  let linked := if link.isStrong then base + 0.05 else base
  let total := if kind = .returnValue then linked + 0.1 else linked
  if highest < total then highest else total

/-- The summary of a commit in parentheses. -/
def summarized (c : Commit) : String :=
  "(" ++ String.ofList c.summary ++ ")"

/-- The reason of the verdict on a divergence. -/
def reasonOf (h : PairHistory) : String :=
  match kindOf h, h.source with
  | .outdatedTest, some c =>
    "The code was changed on purpose after the test was written " ++ summarized c
  | _, some c =>
    if sourceIsFix h then
      "The code diverges from the test and its last change looks like a faulty fix " ++ summarized c
    else "The code does not do what the test expects"
  | _, none => "The code does not do what the test expects"

/-- The last changes of code and test in words. -/
def timeline (h : PairHistory) : String :=
  let day (c : Commit) := String.ofList c.date.dayText
  match h.source, h.test with
  | some source, some test =>
    s!"Source last changed {day source} {summarized source}; " ++
      s!"test last changed {day test} {summarized test}."
  | some source, none =>
    s!"Source last changed {day source} {summarized source}; the test has no history."
  | none, _ => "No git history available."

/-- A text without the points at its end. -/
def dropPoints (s : String) : String :=
  String.ofList (dropEndWhile (· == '.') s.toList)

/-- What the verdict on a divergence rests on. -/
def explanationOf (h : PairHistory) (d : Divergence) : String :=
  let text :=
    s!"{dropPoints d.description}. Expected {d.expected}, got {d.actual}. {timeline h}"
  String.ofList (trimEnd text.toList)

/-- The verdict on a pair that agrees. -/
def pass (a : Analysis) : Verdict :=
  { kind := .passed, confidence := passing, reason := "Test expectations match the code"
    explanation := a.detection.details
    recommendation := Recommendation.build .passed .noAction a.pair none }

/-- The verdict on a divergence. -/
def onDivergence (a : Analysis) (d : Divergence) : Verdict :=
  let kind := kindOf a.history
  { kind
    confidence := confidenceOf a.history a.pair.link d.kind
    reason := reasonOf a.history
    explanation := explanationOf a.history d
    recommendation := Recommendation.build kind (Recommendation.actionFor kind) a.pair (some d)
    regression := kind == .codeBug && sourceIsFix a.history }

/-- The verdict on a pair. -/
def classify (a : Analysis) : Verdict :=
  match a.detection.reported? with
  | some d => onDivergence a d
  | none => pass a

/-- The request for a fix that goes with a verdict. -/
def fixRequest (a : Analysis) (v : Verdict) : FixRequest :=
  { test := a.pair.test.body
    source := a.pair.method.body
    error := (a.detection.divergence.map Divergence.description).getD ""
    file := if v.recommendation.action = .updateTest then a.pair.test.file else a.pair.method.file }

variable {m : Type → Type} [Monad m]

/-- The verdict with the fix that an assistant proposes. -/
def withFix (assistant : Assistant m) (a : Analysis) (v : Verdict) : m Verdict := do
  if ← assistant.available then
    match ← assistant.fix (fixRequest a v) with
    | .ok f =>
      return { v with recommendation := { v.recommendation with fix := some f.suggestion } }
    | .error _ => return v
  else return v

/-- The verdict on a pair, with a fix when code or test has to change and an assistant knows
one. -/
def determine (assistant : Option (Assistant m)) (a : Analysis) : m Verdict :=
  let v := classify a
  match assistant with
  | some assistant => if v.kind.isActionable then withFix assistant a v else pure v
  | none => pure v

end Verdict

end Adjudicator
