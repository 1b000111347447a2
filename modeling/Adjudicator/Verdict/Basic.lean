import Adjudicator.Divergence.Basic

/-!
# Verdicts

A verdict says what a divergence means: a bug of the code, an outdated test, a flaky test, or an
issue of the environment; or that the test passes. It comes with a recommendation.
-/

namespace Adjudicator

open Json

/-- Kind of a verdict. -/
inductive VerdictKind where
  | codeBug
  | outdatedTest
  | flakyTest
  | environmentIssue
  | passed
deriving DecidableEq, Repr, Inhabited

namespace VerdictKind

/-- All kinds. -/
def all : List VerdictKind :=
  [codeBug, outdatedTest, flakyTest, environmentIssue, passed]

/-- The kind's name in data and for readers. -/
def name : VerdictKind → String
  | codeBug => "CODE_BUG"
  | outdatedTest => "OUTDATED_TEST"
  | flakyTest => "FLAKY_TEST"
  | environmentIssue => "ENVIRONMENT_ISSUE"
  | passed => "PASSED"

/-- Whether code or test has to change. -/
def isActionable : VerdictKind → Bool
  | codeBug | outdatedTest => true
  | _ => false

end VerdictKind

/-- What to do about a verdict. -/
inductive Action where
  | fixCode
  | updateTest
  | addRetry
  | checkEnvironment
  | investigate
  | noAction
deriving DecidableEq, Repr, Inhabited

namespace Action

/-- All actions. -/
def all : List Action :=
  [fixCode, updateTest, addRetry, checkEnvironment, investigate, noAction]

/-- The action's name in data. -/
def name : Action → String
  | fixCode => "FIX_CODE"
  | updateTest => "UPDATE_TEST"
  | addRetry => "ADD_RETRY"
  | checkEnvironment => "CHECK_ENVIRONMENT"
  | investigate => "INVESTIGATE"
  | noAction => "NO_ACTION"

end Action

/-- How urgent a recommendation is. -/
inductive Priority where
  | critical
  | high
  | medium
  | low
deriving DecidableEq, Repr, Inhabited

/-- The priority's name in data. -/
def Priority.name : Priority → String
  | critical => "CRITICAL"
  | high => "HIGH"
  | medium => "MEDIUM"
  | low => "LOW"

/-- What to do, where, and how soon. -/
structure Recommendation where
  /-- What to do. -/
  action : Action
  /-- The same in words. -/
  description : String
  /-- A proposed change. -/
  fix : Option String := none
  /-- The files to look at. -/
  files : List Path
  /-- How urgent it is. -/
  priority : Priority
deriving DecidableEq, Repr, Inhabited

/-- A verdict on a pair. -/
structure Verdict where
  /-- Kind. -/
  kind : VerdictKind
  /-- How sure the verdict is. -/
  confidence : Float
  /-- The reason in one sentence. -/
  reason : String
  /-- What the verdict rests on. -/
  explanation : String
  /-- What to do. -/
  recommendation : Recommendation
  /-- Whether the last change of the code looks like an accident. -/
  regression : Bool := false
deriving Repr, Inhabited

/-- The record of a recommendation; a change that is not proposed is left out. -/
def Recommendation.toJson (r : Recommendation) : Json :=
  obj ([("action", str r.action.name), ("description", str r.description)] ++
    (r.fix.map fun f => ("suggestedFix", str f)).toList ++
    [("affectedFiles", list str r.files), ("priority", str r.priority.name)])

/-- The record of a verdict. -/
def Verdict.toJson (v : Verdict) : Json :=
  obj [("type", str v.kind.name), ("confidence", float v.confidence), ("reason", str v.reason),
    ("explanation", str v.explanation), ("recommendation", v.recommendation.toJson),
    ("isRegression", bool v.regression)]

end Adjudicator
