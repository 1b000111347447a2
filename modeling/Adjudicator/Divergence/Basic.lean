import Adjudicator.Suite.Record

/-!
# Divergences

A divergence is a disagreement between what a test expects and what its method does. A detection
is the answer of one stage of the search, with how sure it is.
-/

namespace Adjudicator

open Json

/-- Kind of a divergence. -/
inductive DivergenceKind where
  | returnValue
  | exception
  | stateMutation
  | missingAssertion
  | incorrectAssertion
  | timing
deriving DecidableEq, Repr, Inhabited

namespace DivergenceKind

/-- All kinds. -/
def all : List DivergenceKind :=
  [returnValue, exception, stateMutation, missingAssertion, incorrectAssertion, timing]

/-- The kind's name in data. -/
def name : DivergenceKind → String
  | returnValue => "RETURN_VALUE_MISMATCH"
  | exception => "EXCEPTION_MISMATCH"
  | stateMutation => "STATE_MUTATION"
  | missingAssertion => "MISSING_ASSERTION"
  | incorrectAssertion => "INCORRECT_ASSERTION"
  | timing => "TIMING_ISSUE"

/-- The kind's name for readers. -/
def title : DivergenceKind → String
  | returnValue => "return value mismatch"
  | exception => "exception mismatch"
  | stateMutation => "state mutation"
  | missingAssertion => "missing assertion"
  | incorrectAssertion => "incorrect assertion"
  | timing => "timing issue"

end DivergenceKind

/-- A disagreement between a test and its method. -/
structure Divergence where
  /-- Kind. -/
  kind : DivergenceKind
  /-- The disagreement in words. -/
  description : String
  /-- Line of the test. -/
  testLine : Nat
  /-- Line of the method. -/
  codeLine : Nat
  /-- What the test expects. -/
  expected : String
  /-- What the method does. -/
  actual : String
deriving DecidableEq, Repr, Inhabited

/-- A stage of the search for a divergence. -/
inductive Stage where
  /-- The message of a real failure. -/
  | failure
  /-- The reply of an assistant. -/
  | assistant
  /-- The numbers and throws of test and method. -/
  | static
  /-- The change of a constant that would make the test pass. -/
  | inference
  /-- No stage found anything. -/
  | nothing
deriving DecidableEq, Repr, Inhabited

namespace Stage

/-- All stages. -/
def all : List Stage :=
  [failure, assistant, static, inference, nothing]

/-- The stage's name in data. -/
def name : Stage → String
  | failure => "real-error"
  | assistant => "ai-comparison"
  | static => "static-analysis"
  | inference => "mutation-inference"
  | nothing => "no-divergence"

end Stage

/-- The answer of a stage. -/
structure Detection where
  /-- Whether a divergence is reported. -/
  found : Bool
  /-- The divergence. -/
  divergence : Option Divergence
  /-- How sure the answer is. -/
  confidence : Float
  /-- What the answer rests on. -/
  details : String
  /-- The stage that answers. -/
  stage : Stage
deriving Repr, Inhabited

namespace Detection

/-- The answer of a stage that reports a divergence. -/
def reported (stage : Stage) (divergence : Divergence) (confidence : Float) (details : String) :
    Detection :=
  { found := true, divergence := some divergence, confidence, details, stage }

/-- The divergence, when one is reported. -/
def reported? (d : Detection) : Option Divergence :=
  if d.found then d.divergence else none

end Detection

/-- The record of a divergence. -/
def Divergence.toJson (d : Divergence) : Json :=
  obj [("type", str d.kind.name), ("description", str d.description), ("testLine", nat d.testLine),
    ("codeLine", nat d.codeLine), ("expected", str d.expected), ("actual", str d.actual)]

/-- The divergence of a record. -/
def Divergence.ofJson? (j : Json) : Option Divergence := do
  some
    { kind := ← j.field? "type" (named? DivergenceKind.all DivergenceKind.name)
      description := ← j.field? "description" str?
      testLine := ← j.field? "testLine" nat?
      codeLine := ← j.field? "codeLine" nat?
      expected := ← j.field? "expected" str?
      actual := ← j.field? "actual" str? }

/-- The record of a detection. -/
def Detection.toJson (d : Detection) : Json :=
  obj [("hasDivergence", bool d.found), ("divergence", option Divergence.toJson d.divergence),
    ("confidence", float d.confidence), ("details", str d.details), ("stage", str d.stage.name)]

/-- The detection of a record. -/
def Detection.ofJson? (j : Json) : Option Detection := do
  some
    { found := ← j.field? "hasDivergence" bool?
      divergence := ← j.optional? "divergence" Divergence.ofJson?
      confidence := ← j.field? "confidence" float?
      details := ← j.field? "details" str?
      stage := ← j.field? "stage" (named? Stage.all Stage.name) }

/-- Line of the first assertion of a test, or of the test when it has none. -/
def TestCase.firstAssertionLine (t : TestCase) : Nat :=
  (t.assertions.head?.map Assertion.line).getD t.line

/-- Whether a test expects an error. -/
def TestCase.expectsError (t : TestCase) : Bool :=
  t.assertions.any fun a => a.kind = .throws

/-- The language of the method's file, or else of the test's. -/
def Pair.language? (p : Pair) : Option Language :=
  match Language.ofPath? p.method.file with
  | some language => some language
  | none => Language.ofPath? p.test.file

end Adjudicator
