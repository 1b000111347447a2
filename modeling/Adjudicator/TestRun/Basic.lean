import Adjudicator.Suite.Record
import Adjudicator.Text.Blank
import Adjudicator.Text.Search

/-!
# Test runs

The outcomes of the tests of one run. Tests are found by their names, where one name may be a
qualified form of the other.
-/

namespace Adjudicator

open Json Text

/-- How a test ended. -/
inductive TestStatus where
  | passed
  | failed
  | skipped
deriving DecidableEq, Repr, Inhabited

namespace TestStatus

/-- All statuses. -/
def all : List TestStatus :=
  [passed, failed, skipped]

/-- The status's name in data. -/
def name : TestStatus → String
  | passed => "passed"
  | failed => "failed"
  | skipped => "skipped"

end TestStatus

/-- The outcome of one test. -/
structure TestOutcome where
  /-- Name of the test. -/
  name : String
  /-- File of the test. -/
  file : Option Path := none
  /-- How it ended. -/
  status : TestStatus
  /-- Duration in milliseconds. -/
  duration : Option Nat := none
  /-- What went wrong. -/
  message : Option String := none
deriving DecidableEq, Repr, Inhabited

/-- The outcomes of a run. -/
structure TestRun where
  /-- Outcomes in order. -/
  outcomes : List TestOutcome
  /-- Duration in milliseconds. -/
  duration : Nat := 0
  /-- What the run printed. -/
  output : String := ""
deriving DecidableEq, Repr, Inhabited

namespace TestRun

/-- Number of tests that ended in a way. -/
def count (r : TestRun) (status : TestStatus) : Nat :=
  (r.outcomes.filter fun o => o.status = status).length

/-- The characters that qualify a name. -/
def isQualifier (c : Char) : Bool :=
  c == ':' || c == '.' || c.toNat == 0x203A || c == '/' || c == '>'

/-- The last part of a qualified name. -/
def lastPart (name : List Char) : List Char :=
  trim (afterLast isQualifier name)

/-- Whether two names are equal or have the same last part, which is not empty. -/
def namesMatch (a b : List Char) : Bool :=
  let a := trim a
  let b := trim b
  a == b || (!(lastPart a).isEmpty && lastPart a == lastPart b)

/-- The message of the first failed test of a name. -/
def failureOf? (r : TestRun) (name : String) : Option String :=
  (r.outcomes.find? fun o =>
      o.status = .failed && namesMatch o.name.toList name.toList).bind TestOutcome.message

end TestRun

/-- The record of an outcome. -/
def TestOutcome.toJson (o : TestOutcome) : Json :=
  obj [("name", str o.name), ("file", option str o.file), ("status", str o.status.name),
    ("durationMs", option nat o.duration), ("errorMessage", option str o.message)]

/-- The outcome of a record. -/
def TestOutcome.ofJson? (j : Json) : Option TestOutcome := do
  some
    { name := ← j.field? "name" str?
      file := ← j.optional? "file" str?
      status := ← j.field? "status" (named? TestStatus.all TestStatus.name)
      duration := ← j.optional? "durationMs" nat?
      message := ← j.optional? "errorMessage" str? }

/-- The record of a run. -/
def TestRun.toJson (r : TestRun) : Json :=
  obj [("total", nat r.outcomes.length), ("passed", nat (r.count .passed)),
    ("failed", nat (r.count .failed)), ("skipped", nat (r.count .skipped)),
    ("durationMs", nat r.duration), ("results", list TestOutcome.toJson r.outcomes),
    ("rawOutput", str r.output)]

end Adjudicator
