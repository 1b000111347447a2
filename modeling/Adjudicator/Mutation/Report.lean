import Adjudicator.Mutation.Judgement

/-!
# Mutation reports

A weak spot is a line with at least one mutation that no assertion would notice. The report of a
pair mutates the body of its method, or the whole file when the body is blank.
-/

namespace Adjudicator.Mutation

open Text

/-- How much the kinds of unnoticed mutations matter. -/
def severity (kinds : List MutationKind) : Severity :=
  match kinds.contains .number, kinds.contains .result with
  | true, true => .high
  | true, false | false, true => .medium
  | false, false => .low

/-- What to test so that mutations of a kind are noticed. -/
def suggestion : MutationKind → String
  | .number => "Assert the exact computed value so constant changes are detected"
  | .operator => "Add a case whose result differs when the operator changes"
  | .bound => "Test the values at and just beyond the boundary"
  | .truth => "Assert the boolean outcome explicitly"
  | .result => "Assert the return value rather than only calling the method"
  | .condition => "Cover both branches of the condition"

/-- The kinds of outcomes, each once and in the order of kinds. -/
def kindsOf (outcomes : List MutationOutcome) : List MutationKind :=
  MutationKind.all.filter fun k => outcomes.any fun o => o.mutation.kind == k

/-- The lines of outcomes, each once and from the smallest. -/
def linesOf (outcomes : List MutationOutcome) : List Nat :=
  ((outcomes.map fun o => o.mutation.line).mergeSort (· ≤ ·)).eraseReps

/-- The weak spot of a line, from the outcomes that were not caught. -/
def weakSpot? (missed : List MutationOutcome) (line : Nat) : Option WeakSpot := do
  let here := missed.filter fun o => o.mutation.line == line
  let first ← here.head?
  let kinds := kindsOf here
  let kind ← kinds.head?
  some { line, code := first.mutation.code, severity := severity kinds, kinds,
         suggestion := suggestion kind }

/-- The weak spots of outcomes, by increasing line. -/
def weakSpots (outcomes : List MutationOutcome) : List WeakSpot :=
  let missed := outcomes.filter fun o => !o.caught
  (linesOf missed).filterMap (weakSpot? missed)

/-- The report of a text whose first line has the given number. -/
def reportOf (assertions : List Assertion) (text : List Char) (first : Nat) : MutationReport :=
  let outcomes := (ofBody text first).map (judge assertions)
  { outcomes, weakSpots := weakSpots outcomes }

/-- The report of a pair. -/
def report (pair : Pair) (file : Option (List Char)) : MutationReport :=
  let body := pair.method.body.toList
  match file with
  | some text =>
    if blank body then reportOf pair.test.assertions text 1
    else reportOf pair.test.assertions body pair.method.line
  | none => reportOf pair.test.assertions body pair.method.line

end Adjudicator.Mutation
