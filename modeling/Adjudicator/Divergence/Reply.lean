import Adjudicator.Code.Literal
import Adjudicator.Divergence.Basic
import Adjudicator.Pattern.Build
import Adjudicator.Pattern.Search

/-!
# Divergences in replies

An assistant that compares a test with its method answers in free text. The reply claims a
divergence when it uses a phrase for one and no phrase that denies it; the two values are looked
for behind the words for expecting and for returning, and a value with a digit is preferred.
-/

namespace Adjudicator.Reply

open Text Pattern

/-- Words in any case, one of them. -/
def anyWord (words : List String) : Pattern :=
  choice (words.map anyCase)

/-- Phrases that claim a divergence. -/
def claim : Pattern :=
  boundary ++
    choice
      [anyCase "mismatch", anyCase "does not match", anyCase "doesn't match",
        anyCase "test" ++ boundary ++ dot.star ++ boundary ++ anyCase "fail" ++ opt (anyCase "s"),
        anyCase "will fail", anyCase "diverge" ++ opt (anyCase "s"), anyCase "divergence",
        anyCase "inconsistent", anyCase "incorrect", anyCase "discrepancy"] ++
    boundary

/-- Phrases that deny a divergence. -/
def denial : Pattern :=
  boundary ++
    choice
      [anyCase "no " ++ anyWord ["divergence", "mismatch", "discrepancy"],
        anyCase "does not diverge", anyCase "doesn't diverge",
        anyCase "matches the " ++ anyWord ["implementation", "code"],
        anyWord ["is", "are"] ++ anyCase " consistent with", anyCase "no issue" ++
        opt (anyCase "s")] ++
    boundary

/-- A value behind one of several verbs. -/
def valueBehind (verbs : List String) : Pattern :=
  let quote : Pattern := opt (one (· == Code.backtick))
  boundary ++ choice (verbs.map fun verb => anyCase verb ++ opt (anyCase "s")) ++ space ++
    opt (choice [anyCase "a" ++ space, anyCase "an" ++ space, anyCase "the" ++ space]) ++
    opt (anyCase "value" ++ space ++ opt (anyCase "of" ++ space)) ++ quote ++
    group 1 (choice [opt "-" ++ decimal, word]) ++ quote

/-- A value that the test expects. -/
def expectedValue : Pattern :=
  valueBehind ["expect"]

/-- A value that the method returns. -/
def returnedValue : Pattern :=
  valueBehind ["return", "produce", "compute", "yield"]

/-- Words that speak of errors. -/
def errorTalk : Pattern :=
  boundary ++
    choice
      [anyCase "exception", anyCase "throw" ++ opt (anyCase "s"), anyCase "thrown",
        anyCase "raise" ++ opt (anyCase "s"), anyCase "error"] ++
    boundary

/-- What a reply claims. -/
structure Finding where
  /-- Kind of the divergence. -/
  kind : DivergenceKind
  /-- What the test expects. -/
  expected : List Char
  /-- What the method does. -/
  actual : List Char
  /-- The sentence with the claim. -/
  summary : List Char
  /-- How sure the claim is. -/
  confidence : Float
deriving Repr

/-- Whether a reply claims a divergence. -/
def indicates (reply : List Char) : Bool :=
  claim.found reply && !denial.found reply

/-- The value behind a verb: the first with a digit, or else the first. -/
def value? (p : Pattern) (reply : List Char) : Option (List Char) :=
  let found := (p.findAll reply).map fun m => m.group 1
  match found.find? fun v => v.any isDigit with
  | some v => some v
  | none => found.head?

/-- The longest summary, in characters. -/
def summaryLength : Nat :=
  200

/-- The first sentence with the claim, or the whole reply; cut when it is too long. -/
def summary (reply : List Char) : List Char :=
  let sentences := splitWhere (fun c => c == '.' || c == '\n') reply
  let sentence := ((sentences.map trim).find? claim.found).getD (trim reply)
  if summaryLength < sentence.length then sentence.take summaryLength ++ ['.', '.', '.']
  else sentence

/-- What stands for a value that is not in the reply. -/
def elsewhere : List Char :=
  "see AI explanation".toList

/-- Confidence of a claim with both values. -/
def withValues : Float :=
  0.85

/-- Confidence of a claim without them. -/
def withoutValues : Float :=
  0.8

/-- What a reply claims about a test. -/
def interpret? (reply : List Char) (expectsError : Bool) : Option Finding :=
  if !indicates reply then none
  else
    let expected := value? expectedValue reply
    let actual := value? returnedValue reply
    some
      { kind := if expectsError && errorTalk.found reply then .exception else .returnValue
        expected := expected.getD elsewhere
        actual := actual.getD elsewhere
        summary := summary reply
        confidence := if expected.isSome && actual.isSome then withValues else withoutValues }

/-- The detection that a reply about a pair gives. -/
def detect? (pair : Pair) (reply : String) : Option Detection :=
  (interpret? reply.toList pair.test.expectsError).map fun f =>
    .reported .assistant
      { kind := f.kind, description := String.ofList f.summary
        testLine := pair.test.firstAssertionLine, codeLine := pair.method.line
        expected := String.ofList f.expected, actual := String.ofList f.actual }
      f.confidence "AI comparison reported a divergence"

end Adjudicator.Reply
