import Adjudicator.Json.Basic

/-!
# Mutations

A mutation is one edit of one line of a method. It is never run: it is judged by what the
assertions of a test would notice.
-/

namespace Adjudicator

open Json

/-- Kind of a mutation, in the order in which kinds are listed. -/
inductive MutationKind where
  /-- Another number. -/
  | number
  /-- Another operator. -/
  | operator
  /-- A comparison that includes or excludes its bound. -/
  | bound
  /-- The other truth value. -/
  | truth
  /-- Another returned value. -/
  | result
  /-- The negation of a condition. -/
  | condition
deriving DecidableEq, Repr, Inhabited

namespace MutationKind

/-- All kinds in their order. -/
def all : List MutationKind :=
  [number, operator, bound, truth, result, condition]

/-- The kind's name in data. -/
def name : MutationKind → String
  | number => "NUMERIC_CHANGE"
  | operator => "OPERATOR_SWAP"
  | bound => "BOUNDARY_SHIFT"
  | truth => "BOOLEAN_FLIP"
  | result => "RETURN_VALUE"
  | condition => "CONDITION_NEGATION"

end MutationKind

/-- The numbers of a mutation that changes one. -/
structure NumberChange where
  /-- The number in the code. -/
  old : Float
  /-- The number in its place. -/
  new : Float
deriving Repr

/-- An edit of one line. -/
structure Mutation where
  /-- Kind. -/
  kind : MutationKind
  /-- Line of the file. -/
  line : Nat
  /-- The trimmed line of code. -/
  code : List Char
  /-- The trimmed line after the edit. -/
  mutated : List Char
  /-- The edit in words. -/
  description : List Char
  /-- The numbers before and after, for a change of a number. -/
  change : Option NumberChange := none
deriving Repr

/-- What a test makes of a mutation. -/
structure MutationOutcome where
  /-- The mutation. -/
  mutation : Mutation
  /-- Whether the test would notice it. -/
  caught : Bool
  /-- How sure that is. -/
  confidence : Float
  /-- Why. -/
  reason : List Char
deriving Repr

/-- How much a weak spot matters. -/
inductive Severity where
  | high
  | medium
  | low
deriving DecidableEq, Repr

/-- The severity's name in data. -/
def Severity.name : Severity → String
  | high => "high"
  | medium => "medium"
  | low => "low"

/-- A line with mutations that no assertion would notice. -/
structure WeakSpot where
  /-- Line of the file. -/
  line : Nat
  /-- The trimmed line of code. -/
  code : List Char
  /-- How much it matters. -/
  severity : Severity
  /-- The kinds of the mutations, each once and in order. -/
  kinds : List MutationKind
  /-- What to test in addition. -/
  suggestion : String
deriving Repr

/-- The mutations of a method and what a test makes of them. -/
structure MutationReport where
  /-- Mutations in the order of the code. -/
  outcomes : List MutationOutcome
  /-- Lines with mutations that the test would not notice. -/
  weakSpots : List WeakSpot
deriving Repr

namespace MutationReport

/-- Number of mutations. -/
def total (r : MutationReport) : Nat :=
  r.outcomes.length

/-- Number of mutations that the test would notice. -/
def caught (r : MutationReport) : Nat :=
  (r.outcomes.filter MutationOutcome.caught).length

/-- The part of the mutations that the test would notice; all when there are none. -/
def score (r : MutationReport) : Float :=
  if r.total = 0 then 1.0 else Number.ofInt r.caught / Number.ofInt r.total

end MutationReport

/-- A text of characters. -/
def Json.chars (s : List Char) : Json :=
  str (String.ofList s)

/-- The record of a mutation. -/
def Mutation.toJson (m : Mutation) : Json :=
  obj [("type", str m.kind.name), ("line", nat m.line), ("original", chars m.code),
    ("mutated", chars m.mutated), ("description", chars m.description),
    ("originalValue", option float (m.change.map NumberChange.old)),
    ("mutatedValue", option float (m.change.map NumberChange.new))]

/-- The record of an outcome. -/
def MutationOutcome.toJson (o : MutationOutcome) : Json :=
  obj [("mutation", o.mutation.toJson), ("caught", bool o.caught),
    ("confidence", float o.confidence), ("reason", chars o.reason)]

/-- The record of a weak spot. -/
def WeakSpot.toJson (w : WeakSpot) : Json :=
  obj [("line", nat w.line), ("code", chars w.code), ("severity", str w.severity.name),
    ("mutationTypes", list (fun k => str k.name) w.kinds), ("suggestion", str w.suggestion)]

/-- The record of a report. -/
def MutationReport.toJson (r : MutationReport) : Json :=
  obj [("total", nat r.total), ("caught", nat r.caught), ("mutationScore", float r.score),
    ("mutations", list MutationOutcome.toJson r.outcomes),
    ("weakSpots", list WeakSpot.toJson r.weakSpots)]

end Adjudicator
