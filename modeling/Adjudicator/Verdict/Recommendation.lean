import Adjudicator.Verdict.Basic

/-!
# Recommendations

What to do follows from the verdict, the files to look at from what to do, and the urgency from
the kind of the divergence.
-/

namespace Adjudicator.Recommendation

/-- The usual action for a verdict. -/
def actionFor : VerdictKind → Action
  | .codeBug => .fixCode
  | .outdatedTest => .updateTest
  | .flakyTest => .addRetry
  | .environmentIssue => .checkEnvironment
  | .passed => .noAction

/-- The urgency of a divergence of a kind. -/
def priorityOf : Option DivergenceKind → Priority
  | some .exception => .critical
  | some .returnValue | some .stateMutation => .high
  | some _ => .medium
  | none => .low

/-- The urgency of a verdict. -/
def priorityFor (kind : VerdictKind) (divergence : Option Divergence) : Priority :=
  match kind with
  | .passed => .low
  | .environmentIssue | .flakyTest => .medium
  | .codeBug | .outdatedTest => priorityOf (divergence.map Divergence.kind)

/-- The files to look at. -/
def filesFor (action : Action) (pair : Pair) : List Path :=
  match action with
  | .fixCode => [pair.method.file]
  | .updateTest | .addRetry => [pair.test.file]
  | .checkEnvironment | .investigate => [pair.test.file, pair.method.file]
  | .noAction => []

/-- What to do in words. -/
def describe (action : Action) (pair : Pair) (divergence : Option Divergence) : String :=
  let test := pair.test.name
  let method := pair.method.name
  match action, divergence with
  | .updateTest, some d =>
    s!"Update {test} to expect {d.actual} instead of {d.expected} (line {d.testLine})"
  | .updateTest, none => s!"Update {test} to match {method}"
  | .fixCode, some d =>
    s!"Fix {method} so it produces {d.expected} instead of {d.actual} (line {d.codeLine})"
  | .fixCode, none => s!"Fix {method} to satisfy {test}"
  | .addRetry, _ => s!"Stabilize {test}: remove timing dependence or add a bounded retry"
  | .checkEnvironment, _ =>
    s!"Check the environment {test} runs in: dependencies, services and permissions"
  | .investigate, _ =>
    s!"Not enough information to judge {test} against {method}; inspect both manually"
  | .noAction, _ => "No action needed"

/-- The recommendation for a verdict. -/
def build (kind : VerdictKind) (action : Action) (pair : Pair) (divergence : Option Divergence) :
    Recommendation :=
  { action
    description := describe action pair divergence
    files := filesFor action pair
    priority := priorityFor kind divergence }

end Adjudicator.Recommendation
