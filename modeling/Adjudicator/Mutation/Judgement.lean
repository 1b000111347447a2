import Adjudicator.Mutation.Candidates
import Adjudicator.Suite.Declaration
import Adjudicator.Value.Literal

/-!
# Judging mutations

Whether the assertions of a test would notice a mutation. A changed number is noticed when an
assertion mentions the number itself, or when one with a tolerance sees a change of a tenth; the
other kinds are noticed by the assertions that could observe them.
-/

namespace Adjudicator.Mutation

open Text Pattern

/-- Numbers closer than this are the number that an assertion mentions. -/
def pinTolerance : Float :=
  0.01

/-- Words for a compared value, or a digit. -/
def resultWord : Pattern :=
  choice
    [boundary ++ choice [anyCase "result", anyCase "actual", anyCase "expected"] ++ boundary, digit]

/-- Words for truth values. -/
def truthWord : Pattern :=
  choice [anyCase "true", anyCase "false", anyCase "truthy", anyCase "falsy"]

/-- Three arguments in parentheses. -/
def threeArguments : Pattern :=
  gap ++ "(" ++ (noneOf ",").plus ++ "," ++ (noneOf ",").plus ++ "," ++ (noneOf ",)").plus ++ ")"

/-- An assertion with a tolerance. -/
def tolerant : Pattern :=
  choice
    [anyCase "closeto", anyCase "approx", anyCase "almostequal", anyCase "indelta",
      anyCase "inepsilon", anyCase "within", boundary ++ anyCase "assertequals" ++ threeArguments,
      boundary ++ anyCase "areequal" ++ threeArguments]

/-- Whether an assertion could observe a mutation of a kind. -/
def observes (kind : MutationKind) (a : Assertion) : Bool :=
  match kind with
  | .number | .result => resultWord.found a.raw.toList
  | .truth => a.kind = .truthy || truthWord.found a.raw.toList
  | .operator | .bound | .condition => true

/-- Whether an assertion mentions one of several numbers. -/
def mentions (numbers : List Float) (a : Assertion) : Bool :=
  (Value.literals a.raw.toList).any fun n =>
    numbers.any fun b => Number.abs (n - b) < pinTolerance

/-- Whether an assertion compares with a number. -/
def expectsNumber (a : Assertion) : Bool :=
  a.kind = .equals && (a.expected.bind fun e => Value.readNumeric? e.toList).isSome

/-- What a test makes of a mutation: whether it notices, how sure that is, and why. -/
structure Judgement where
  /-- Whether the test would notice. -/
  caught : Bool
  /-- How sure that is. -/
  confidence : Float
  /-- Why. -/
  reason : List Char
deriving Repr

/-- The relative size of a change. -/
def relativeChange (c : NumberChange) : Float :=
  if c.old == 0.0 then 0.0 else Number.abs ((c.new - c.old) / c.old)

/-- A judgement on a changed number. -/
def judgeNumber (change : Option NumberChange) (relevant : List Assertion) : Judgement :=
  match change with
  | none => ⟨false, 0.5, "Original value unknown".toList⟩
  | some c =>
    let shown := Number.plain c.old
    let size := relativeChange c
    if relevant.any (mentions [c.old]) then
      ⟨true, 0.95, "Assertion pins the value ".toList ++ shown⟩
    else if (relevant.any fun a => tolerant.found a.raw.toList) && 0.1 - 1e-9 ≤ size then
      ⟨true, 0.7, "A ".toList ++ Number.fixed 0 (size * 100.0) ++
        "% change exceeds the assertion tolerance".toList⟩
    else ⟨false, 0.7, "No assertion pins the value ".toList ++ shown⟩

/-- A judgement with a fixed reason. -/
def Judgement.of (caught : Bool) (confidence : Float) (reason : String) : Judgement :=
  ⟨caught, confidence, reason.toList⟩

/-- A judgement on a mutation by the assertions that could observe it. -/
def judgeBy (m : Mutation) (relevant : List Assertion) : Judgement :=
  match m.kind with
  | .number => judgeNumber m.change relevant
  | .result =>
    if relevant.any fun a => a.kind = .equals then
      .of true 0.9 "Return value is compared for equality"
    else .of false 0.6 "No equality assertion observes the return value"
  | .operator =>
    if relevant.any expectsNumber then
      .of true 0.8 "A numeric expectation depends on this operator"
    else if !relevant.isEmpty then .of true 0.6 "Assertions observe the result indirectly"
    else .of false 0.7 "No assertion observes this operator"
  | .bound =>
    if relevant.any (mentions (Value.literals m.code)) then
      .of true 0.75 "Test exercises the boundary value"
    else .of false 0.7 "Boundary value is never tested"
  | .truth =>
    if relevant.isEmpty then .of false 0.7 "No assertion checks a boolean outcome"
    else .of true 0.85 "Boolean outcome is asserted"
  | .condition =>
    if relevant.any fun a => a.kind = .throws then
      .of true 0.85 "Negated branch changes whether an exception is thrown"
    else if !relevant.isEmpty then .of true 0.7 "Negated branch changes the asserted outcome"
    else .of false 0.7 "No assertion depends on this branch"

/-- What the assertions of a test make of a mutation. -/
def judge (assertions : List Assertion) (m : Mutation) : MutationOutcome :=
  let j := judgeBy m (assertions.filter (observes m.kind))
  { mutation := m, caught := j.caught, confidence := j.confidence, reason := j.reason }

end Adjudicator.Mutation
