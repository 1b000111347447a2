import Adjudicator.Mutation.Report
import Adjudicator.Text.Blank
import Adjudicator.Verdict.Classification

/-!
# Reports

The report of a pair says in short what the verdict on it is and why; with its details it also
holds everything that is known about the pair. The report of a project counts the verdicts.
-/

namespace Adjudicator

open Json Text

/-- Everything behind the verdict on a pair. -/
structure Details where
  /-- What is known about the pair. -/
  analysis : Analysis
  /-- The verdict. -/
  verdict : Verdict
deriving Repr, Inhabited

/-- The report of a pair. -/
structure PairReport where
  /-- Name of the test. -/
  test : String
  /-- File of the test. -/
  testFile : Path
  /-- Name of the method. -/
  method : String
  /-- File of the method. -/
  methodFile : Path
  /-- Kind of the verdict. -/
  kind : VerdictKind
  /-- How sure the verdict is. -/
  confidence : Float
  /-- Why. -/
  reasoning : String
  /-- What to do. -/
  suggestions : List String
  /-- Whether the last change of the code looks like an accident. -/
  regression : Bool
  /-- Everything behind the verdict. -/
  details : Option Details := none
deriving Repr, Inhabited

/-- The reason of a verdict, and behind it what the verdict rests on. -/
def Verdict.reasoning (v : Verdict) : String :=
  if v.explanation.isEmpty then v.reason
  else String.ofList (dropEndWhile (· == '.') v.reason.toList) ++ ". " ++ v.explanation

namespace PairReport

/-- The report of a verdict. -/
def of (a : Analysis) (v : Verdict) : PairReport :=
  { test := a.pair.test.name, testFile := a.pair.test.file, method := a.pair.method.name
    methodFile := a.pair.method.file, kind := v.kind, confidence := v.confidence
    reasoning := v.reasoning
    suggestions := v.recommendation.description :: v.recommendation.fix.toList
    regression := v.regression, details := some ⟨a, v⟩ }

/-- The report without what is behind the verdict. -/
def brief (r : PairReport) : PairReport :=
  { r with details := none }

end PairReport

/-- How many pairs there are reports of, by the kinds of their verdicts. -/
structure Summary where
  /-- All pairs. -/
  total : Nat := 0
  /-- Those with a bug of the code. -/
  codeBug : Nat := 0
  /-- Those with an outdated test. -/
  outdatedTest : Nat := 0
  /-- Those with a flaky test. -/
  flakyTest : Nat := 0
  /-- Those with an issue of the environment. -/
  environmentIssue : Nat := 0
  /-- Those that pass. -/
  passed : Nat := 0
  /-- Those whose code was changed by accident. -/
  regressions : Nat := 0
deriving DecidableEq, Repr, Inhabited

namespace Summary

/-- The number of verdicts of a kind. -/
def count (s : Summary) : VerdictKind → Nat
  | .codeBug => s.codeBug
  | .outdatedTest => s.outdatedTest
  | .flakyTest => s.flakyTest
  | .environmentIssue => s.environmentIssue
  | .passed => s.passed

/-- One more verdict of a kind. -/
def countOne (s : Summary) : VerdictKind → Summary
  | .codeBug => { s with codeBug := s.codeBug + 1 }
  | .outdatedTest => { s with outdatedTest := s.outdatedTest + 1 }
  | .flakyTest => { s with flakyTest := s.flakyTest + 1 }
  | .environmentIssue => { s with environmentIssue := s.environmentIssue + 1 }
  | .passed => { s with passed := s.passed + 1 }

/-- One more report. -/
def add (s : Summary) (r : PairReport) : Summary :=
  let s := { s with total := s.total + 1 }.countOne r.kind
  if r.regression then { s with regressions := s.regressions + 1 } else s

/-- The record of the counts. -/
def toJson (s : Summary) : Json :=
  obj [("total", nat s.total), ("codeBug", nat s.codeBug), ("outdatedTest", nat s.outdatedTest),
    ("flakyTest", nat s.flakyTest), ("environmentIssue", nat s.environmentIssue),
    ("passed", nat s.passed), ("regressions", nat s.regressions)]

end Summary

/-- The report of a project. -/
structure Report where
  /-- The reports of the pairs, in order. -/
  results : List PairReport
deriving Repr, Inhabited

namespace Report

/-- The reports with a verdict of a kind. -/
def ofKind (r : Report) (kind : VerdictKind) : List PairReport :=
  r.results.filter fun p => p.kind == kind

/-- The counts of the reports. -/
def summary (r : Report) : Summary :=
  r.results.foldl Summary.add {}

/-- Number of pairs whose code or test has to change. -/
def actionable (r : Report) : Nat :=
  r.summary.codeBug + r.summary.outdatedTest

/-- The report without what is behind the verdicts. -/
def brief (r : Report) : Report :=
  ⟨r.results.map PairReport.brief⟩

end Report

/-- The mutations of a pair's method and what the test makes of them. -/
structure PairMutations where
  /-- The pair. -/
  pair : Pair
  /-- The mutations. -/
  report : MutationReport
deriving Repr

/-- The record of what is known about a pair. -/
def Analysis.toJson (a : Analysis) : Json :=
  obj [("pair", a.pair.toJson), ("expectation", a.expectation.toJson),
    ("behavior", a.behavior.toJson), ("divergence", a.detection.toJson),
    ("gitContext", a.history.toJson), ("failureMessage", option str a.failure)]

/-- The record of the details of a report. -/
def Details.toJson (d : Details) : Json :=
  obj [("analysis", d.analysis.toJson), ("verdict", d.verdict.toJson)]

/-- The record of a pair's report; details that are not kept are left out. -/
def PairReport.toJson (r : PairReport) : Json :=
  obj ([("testName", str r.test), ("testFile", str r.testFile), ("sourceMethod", str r.method),
    ("sourceFile", str r.methodFile), ("verdict", str r.kind.name),
    ("confidence", float r.confidence), ("reasoning", str r.reasoning),
    ("suggestions", list str r.suggestions), ("regression", bool r.regression)] ++
    (r.details.map fun d => ("details", d.toJson)).toList)

/-- The record of a project's report. -/
def Report.toJson (r : Report) : Json :=
  obj [("results", list PairReport.toJson r.results), ("summary", r.summary.toJson)]

/-- The record of a pair's mutations. -/
def PairMutations.toJson (m : PairMutations) : Json :=
  obj [("testName", str m.pair.test.name), ("testFile", str m.pair.test.file),
    ("sourceMethod", str m.pair.method.name), ("sourceFile", str m.pair.method.file),
    ("report", m.report.toJson)]

end Adjudicator
