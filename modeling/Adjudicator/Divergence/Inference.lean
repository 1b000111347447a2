import Adjudicator.Divergence.Static

/-!
# Inferred divergences

When nothing else shows a divergence, the change of a single constant that would make the test
pass is looked for: between small whole numbers, from one rate to another, or of the bound of a
comparison. An expectation that the method mentions is left alone.
-/

namespace Adjudicator

open Json Text Value

/-- How a constant would have to change. -/
inductive InferenceKind where
  /-- From one small whole number to another. -/
  | nearMiss
  /-- From one rate to another. -/
  | percentage
  /-- To another bound of a comparison. -/
  | threshold
deriving DecidableEq, Repr

namespace InferenceKind

/-- The kind's name in data. -/
def name : InferenceKind → String
  | nearMiss => "NEAR_MISS"
  | percentage => "PERCENTAGE"
  | threshold => "THRESHOLD"

/-- The kind's name for readers. -/
def title : InferenceKind → String
  | nearMiss => "NearMiss"
  | percentage => "Percentage"
  | threshold => "Threshold"

/-- How sure an inference of a kind is. -/
def confidence : InferenceKind → Float
  | nearMiss => 0.85
  | percentage => 0.8
  | threshold => 0.75

end InferenceKind

/-- A constant whose change would make a test pass. -/
structure Inference where
  /-- How it would have to change. -/
  kind : InferenceKind
  /-- The number that the test expects. -/
  expected : Float
  /-- The number that the method gives. -/
  actual : Float
  /-- Line of the assertion. -/
  testLine : Nat
  /-- Line of the constant. -/
  codeLine : Nat
  /-- The trimmed line of code with the constant. -/
  context : List Char
  /-- The change in words. -/
  description : String
deriving Repr

namespace Inference

/-- The record of an inference. -/
def toJson (i : Inference) : Json :=
  obj [("kind", str i.kind.name), ("expected", float i.expected), ("actual", float i.actual),
    ("testLine", nat i.testLine), ("codeLine", nat i.codeLine),
    ("context", str (String.ofList i.context)), ("description", str i.description),
    ("confidence", float i.kind.confidence)]

/-- Whether a number is whole and from one to a hundred. -/
def isSmallWhole (x : Float) : Bool :=
  Number.isWhole x && 1.0 ≤ x && x ≤ 100.0

/-- An inference from a number of the code. -/
def of (kind : InferenceKind) (e : Static.Expectation) (v : SourceValue) (actual : Float)
    (description : String) : Inference :=
  { kind, expected := e.value, actual, testLine := e.line, codeLine := v.line,
    context := v.context, description }

/-- A small whole number that would have to be another one. -/
def nearMiss? (e : Static.Expectation) (v : SourceValue) : Option Inference :=
  let gap := Number.abs (e.value - v.value)
  if isSmallWhole e.value && isSmallWhole v.value && 1.0 ≤ gap && gap ≤ 20.0 then
    some (of .nearMiss e v v.value
      (s!"Changing {Static.shownText v.value} to {Static.shownText e.value} on line {v.line} " ++
        "would make the test pass"))
  else none

/-- A rate that would have to be another one. -/
def percentage? (e : Static.Expectation) (v : SourceValue) : Option Inference :=
  let (implied, gap) := Static.impliedPercentage e.value v.value
  let rate := if 0.5 ≤ v.value then e.value / 100.0 else (100.0 - e.value) / 100.0
  if Static.isDiscounted e.value && Static.isRate v.value && 0.0 < gap &&
      gap ≤ Static.maxRateGap then
    some (of .percentage e v implied
      (s!"Rate mismatch: changing {Static.shownText v.value} to {Static.shownText rate} " ++
        s!"on line {v.line} would make the test pass"))
  else none

/-- Whether a line compares sizes. -/
def compares (context : List Char) : Bool :=
  [" < ", " > ", " <= ", " >= "].any fun operator => contains operator.toList context

/-- A bound that would have to be another one. -/
def threshold? (e : Static.Expectation) (v : SourceValue) : Option Inference :=
  let gap := Number.abs (e.value - v.value)
  let tenth := Number.abs v.value * 0.1
  let reach := if tenth < 1.0 then 1.0 else tenth
  if compares v.context && 0.0 < gap && gap ≤ reach then
    some (of .threshold e v v.value
      (s!"Threshold mismatch: the comparison on line {v.line} uses " ++
        s!"{Static.shownText v.value} but the test implies {Static.shownText e.value}"))
  else none

/-- The first inference of a kind, by expectations and then by numbers. -/
def first? (infer? : Static.Expectation → SourceValue → Option Inference)
    (expectations : List Static.Expectation) (values : List SourceValue) : Option Inference :=
  expectations.findSome? fun e => values.findSome? (infer? e)

/-- The change of a constant of a pair's method that would make its test pass. -/
def ofPair? (pair : Pair) : Option Inference :=
  let values := ofBody pair.method.body.toList pair.method.line
  let unexplained := (Static.expectations pair.test.assertions).filter fun e =>
    !values.any fun v => near v.value e.value
  [nearMiss?, percentage?, threshold?].findSome? fun infer? => first? infer? unexplained values

/-- The detection that an inference gives. -/
def detect? (pair : Pair) : Option Detection :=
  (ofPair? pair).map fun i =>
    .reported .inference
      { kind := .returnValue, description := i.description, testLine := i.testLine
        codeLine := i.codeLine, expected := Static.shownText i.expected
        actual := Static.shownText i.actual }
      i.kind.confidence
      (s!"Mutation inference ({i.kind.title}) on " ++
        String.ofList (Code.backtick :: i.context ++ [Code.backtick]))

end Inference

end Adjudicator
