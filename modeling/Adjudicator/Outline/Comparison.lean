import Adjudicator.Outline.Basic

/-!
# Comparing outlines

The expected numbers of a test are compared with the numbers that the code returns. When it
returns none, a constant between zero and one is read as a rate that is taken off a hundred. The
first expectation that nothing explains is a mismatch.
-/

namespace Adjudicator.Outline

/-- An expectation that the code does not meet. -/
structure Mismatch where
  /-- The expected number. -/
  expected : Float
  /-- The number of the code. -/
  actual : Float
  /-- The mismatch in words. -/
  description : String
  /-- Line of the assertion. -/
  testLine : Nat
  /-- Line of the returned value or constant. -/
  codeLine : Nat
deriving Repr

/-- Result of a comparison. -/
inductive Comparison where
  /-- An expectation is not met. -/
  | mismatch (m : Mismatch)
  /-- At least one expectation is explained and none is contradicted. -/
  | consistent
  /-- Nothing can be compared. -/
  | incomparable
deriving Repr

/-- Rates that differ by no more than this are the same rate. -/
def rateTolerance : Float :=
  0.001

/-- A text of the number as reports show it. -/
def shownText (x : Float) : String :=
  String.ofList (Value.shown x)

/-- What remains of a hundred after a rate is taken off. -/
def afterRate (rate : Float) : Float :=
  100.0 * (1.0 - rate)

/-- The returns with a number. -/
def numericReturns (source : Outline) : List (Return × Float) :=
  source.returns.filterMap fun r => r.value.map (r, ·)

/-- The constants that can be rates. -/
def rates (source : Outline) : List (Constant × Float) :=
  source.constants.filterMap fun c =>
    c.value.bind fun v => if 0.0 < v ∧ v < 1.0 then some (c, v) else none

/-- Distance of two numbers in an order that has a place for what is not a number. -/
def distance (a b : Float) : Nat :=
  (Number.abs (a - b)).toBits.toNat

/-- The return whose number is nearest to `expected`, and of several the first. -/
def nearest (expected : Float) (best : Return × Float) : List (Return × Float) → Return × Float
  | [] => best
  | r :: rest =>
    nearest expected (if distance r.2 expected < distance best.2 expected then r else best) rest

/-- What one expectation shows. -/
inductive Judged where
  /-- The code explains it. -/
  | explained
  /-- It says nothing. -/
  | silent
  /-- The code contradicts it. -/
  | contradicted (m : Mismatch)
deriving Repr

/-- The mismatch of an expectation with the nearest return. -/
def returnMismatch (a : Assertion) (expected : Float) (r : Return × Float) : Mismatch :=
  { expected
    actual := r.2
    description := s!"Test expects {shownText expected} but the method returns " ++
      String.ofList r.1.raw
    testLine := a.line
    codeLine := r.1.line }

/-- The mismatch of an expectation with a rate. -/
def rateMismatch (a : Assertion) (expected implied : Float) (r : Constant × Float) : Mismatch :=
  let actual := afterRate r.2
  { expected
    actual
    description :=
      s!"Rate mismatch: test expects {shownText expected} ({shownText (implied * 100.0)}% rate) " ++
        s!"but {String.ofList r.1.name} = {String.ofList r.1.raw} implies {shownText actual}"
    testLine := a.line
    codeLine := r.1.line }

/-- Judges an expectation by the returns of the code. -/
def judgeByReturns (a : Assertion) (expected : Float) (r : Return × Float)
    (rest : List (Return × Float)) : Judged :=
  if (r :: rest).any fun x => Value.near x.2 expected then .explained
  else .contradicted (returnMismatch a expected (nearest expected r rest))

/-- Judges an expectation by the rates of the code. -/
def judgeByRates (a : Assertion) (expected : Float) (candidates : List (Constant × Float)) :
    Judged :=
  if candidates.any fun r =>
    Number.abs (afterRate r.2 - expected) < Value.tolerance * 10.0 then .explained
  else if !(80.0 ≤ expected && expected < 100.0) then .silent
  else
    let implied := (100.0 - expected) / 100.0
    match candidates.find? fun r => rateTolerance < Number.abs (implied - r.2) with
    | some r => .contradicted (rateMismatch a expected implied r)
    | none => .silent

/-- Judges an assertion by the code. -/
def judge (source : Outline) (a : Assertion) : Judged :=
  match a.value with
  | none => .silent
  | some expected =>
    match numericReturns source with
    | r :: rest => judgeByReturns a expected r rest
    | [] => judgeByRates a expected (rates source)

/-- The first contradiction, or else whether anything was explained. -/
def firstContradiction (explained : Bool) : List Judged → Comparison
  | [] => if explained then .consistent else .incomparable
  | .contradicted m :: _ => .mismatch m
  | .explained :: rest => firstContradiction true rest
  | .silent :: rest => firstContradiction explained rest

/-- Compares the expectations of a test with the numbers of the code. -/
def compare (test source : Outline) : Comparison :=
  firstContradiction false (test.assertions.map (judge source))

end Adjudicator.Outline
