import Adjudicator.Pattern.Build
import Adjudicator.Pattern.Search
import Adjudicator.Text.Lines
import Adjudicator.Verdict.Recommendation

/-!
# Verdicts without a search

Some pairs are judged before any search for a divergence: a failure that comes from the
environment or from timing says nothing about the code, and a pair with a blank body cannot be
judged at all.
-/

namespace Adjudicator.Screening

open Text Pattern

/-- Texts of failures of the environment. -/
def environmentPattern : Pattern :=
  choice
    (["command not found", "modulenotfounderror", "cannot find module", "econnrefused",
      "no such file or directory", "permission denied", "outofmemory"].map anyCase)

/-- Texts of failures by timing. -/
def timingPattern : Pattern :=
  let alone (s : String) : Pattern := boundary ++ anyCase s ++ boundary
  choice
    [anyCase "timed out", alone "timeout", anyCase "deadline exceeded", alone "flaky", alone "race"]

/-- Confidence of a screened failure. -/
def screened : Float :=
  0.6

/-- Confidence of a verdict on a pair that cannot be judged. -/
def unjudged : Float :=
  0.3

/-- The first line of a message. -/
def firstLine (message : List Char) : List Char :=
  trim ((lines message).headD [])

/-- A verdict on a failure that says nothing about the code. -/
def verdictOn (kind : VerdictKind) (action : Action) (reason : String) (message : List Char)
    (pair : Pair) : Verdict :=
  { kind, confidence := screened, reason, explanation := String.ofList (firstLine message),
    recommendation := Recommendation.build kind action pair none }

/-- The verdict on a failure that says nothing about the code. -/
def failure? (message : List Char) (pair : Pair) : Option Verdict :=
  match environmentPattern.find? message with
  | some m =>
    some (verdictOn .environmentIssue .checkEnvironment
      ("The failure comes from the environment (" ++ String.ofList m.text ++ ")") message pair)
  | none =>
    (timingPattern.find? message).map fun m =>
      verdictOn .flakyTest .addRetry
        ("The failure looks timing-dependent (" ++ String.ofList m.text ++ ")") message pair

/-- A verdict on a pair that cannot be judged. -/
def unjudgedVerdict (pair : Pair) (reason explanation : String) : Verdict :=
  { kind := .environmentIssue, confidence := unjudged, reason, explanation
    recommendation := Recommendation.build .environmentIssue .investigate pair none }

/-- Whether a body of the pair is blank. -/
def lacksBody (pair : Pair) : Bool :=
  blank pair.test.body.toList || blank pair.method.body.toList

/-- The verdict on a pair with a blank body. -/
def insufficient? (pair : Pair) : Option Verdict :=
  if lacksBody pair then
    some (unjudgedVerdict pair "Insufficient data to compare test and code"
      s!"{pair.test.name} or {pair.method.name} has an empty body")
  else none

/-- The verdict on a pair whose analysis did not finish. -/
def unfinished (pair : Pair) : Verdict :=
  unjudgedVerdict pair "Analysis did not complete"
    s!"analysis of {pair.test.name} against {pair.method.name} aborted"

end Adjudicator.Screening
