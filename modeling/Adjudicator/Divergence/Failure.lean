import Adjudicator.Code.Literal
import Adjudicator.Divergence.Basic
import Adjudicator.Pattern.Build
import Adjudicator.Pattern.Search
import Adjudicator.Text.Lines

/-!
# Divergences in failure messages

The message of a failed test names both sides in the form of its framework. The forms are tried in
a fixed order; a form counts when both sides are there and differ. Any other message still proves
that the test failed: it reports an exception when it speaks of one.
-/

namespace Adjudicator.Failure

open Text Pattern

/-- The side that a message names first. -/
inductive Order where
  | expectedFirst
  | actualFirst
deriving DecidableEq, Repr

/-- The form in which a framework reports a failed comparison. -/
structure Form where
  /-- The pattern, with the two sides as groups 1 and 2. -/
  pattern : Pattern
  /-- The side of group 1. -/
  order : Order
  /-- Name of the form. -/
  label : String

/-- At least one character of any kind, preferring fewer. -/
def span : Pattern :=
  anything.plusLazy

/-- The rest of a line, at least one character. -/
def restOfLine : Pattern :=
  (noneOf "\n").plus

/-- Characters that are no blanks. -/
def solid : Pattern :=
  (one fun c => !isBlank c).plus

/-- Two sides on lines of their own, each behind its label. -/
def onTwoLines (first second : Pattern) : Pattern :=
  first ++ gap ++ group 1 span ++ gap ++ "\n" ++ gap ++ second ++ gap ++ group 2 restOfLine

/-- Side 2 at the end of a line. -/
def toLineEnd : Pattern :=
  group 2 dot.plusLazy ++ gap ++ lineEnd

/-- The forms in the order in which they are tried. -/
def forms : List Form :=
  [⟨"expected:" ++ gap ++ "<" ++ group 1 (noneOf ">").star ++ ">" ++ gap ++ "but was:" ++ gap ++
      "<" ++ group 2 (noneOf ">").star ++ ">", .expectedFirst, "JUnit"⟩,
    ⟨"expected [" ++ group 1 (noneOf "]").star ++ "] but found [" ++ group 2 (noneOf "]").star ++
      "]", .expectedFirst, "TestNG"⟩,
    ⟨onTwoLines "Expected:" "Received:", .expectedFirst, "Jest"⟩,
    ⟨"expected " ++ group 1 dot.plusLazy ++ " to " ++ opt (choice ["deeply ", "strictly "]) ++
      "equal " ++ toLineEnd, .actualFirst, "Chai"⟩,
    ⟨onTwoLines "expected:" ("actual" ++ gap ++ ":"), .expectedFirst, "testify"⟩,
    ⟨onTwoLines "Expected:" "But was:", .expectedFirst, "NUnit"⟩,
    ⟨onTwoLines "Expected:" "Actual:", .expectedFirst, "xUnit"⟩,
    ⟨onTwoLines "left:" "right:", .actualFirst, "assert_eq"⟩,
    ⟨"assert " ++ group 1 dot.plusLazy ++ " == " ++ toLineEnd, .actualFirst, "pytest"⟩,
    ⟨"AssertionError:" ++ gap ++ group 1 dot.plusLazy ++ " != " ++ toLineEnd, .actualFirst,
      "unittest"⟩,
    ⟨group 1 solid ++ gap ++ "!==" ++ gap ++ group 2 solid, .actualFirst, "strict equality"⟩,
    ⟨anyCase "expected" ++ space ++ group 1 dot.plusLazy ++ opt "," ++ space ++ anyCase "but" ++
      space ++ choice [anyCase "got", anyCase "was", anyCase "received"] ++ space ++ toLineEnd,
      .expectedFirst, "generic"⟩]

/-- A side without blanks, final punctuation and code quotes around it. -/
def clean (s : List Char) : List Char :=
  let bare := dropEndWhile (fun c => c == ',' || c == '.') (trim s)
  trim (dropEndWhile (· == Code.backtick) (bare.dropWhile (· == Code.backtick)))

/-- Expected and actual side of a message in a form. -/
def Form.sides? (f : Form) (message : List Char) : Option (List Char × List Char) :=
  (f.pattern.find? message).bind fun m =>
    let (expected, actual) :=
      match f.order with
      | .expectedFirst => (clean (m.group 1), clean (m.group 2))
      | .actualFirst => (clean (m.group 2), clean (m.group 1))
    if expected.isEmpty || actual.isEmpty || expected == actual then none
    else some (expected, actual)

/-- The first form that a message has, with its sides. -/
def sides? (message : List Char) : Option (Form × List Char × List Char) :=
  forms.findSome? fun f => (f.sides? message).map (f, ·)

/-- Words that speak of exceptions. -/
def exceptionWord : Pattern :=
  choice
    [boundary ++
        choice
          [anyCase "exception", anyCase "thrown", anyCase "throw" ++ opt (anyCase "s"),
            anyCase "raise" ++ opt (anyCase "d"), anyCase "panicked", anyCase "traceback",
            anyCase "rejected"] ++ boundary,
      word ++ choice [anyCase "exception", anyCase "error"] ++ boundary]

/-- The name of an exception. -/
def exceptionName : Pattern :=
  boundary ++ group 1 (word ++ choice ["Exception", "Error"]) ++ boundary

/-- Failed assertions that are named like exceptions. -/
def assertionErrors : List String :=
  ["AssertionError", "AssertionFailedError", "ComparisonFailure"]

/-- Whether a name is that of a failed assertion. -/
def isAssertionError (name : List Char) : Bool :=
  assertionErrors.contains (String.ofList name)

/-- The first exception that a message names. -/
def named? (message : List Char) : Option (List Char) :=
  ((exceptionName.findAll message).map fun m => m.group 1).find? fun name =>
    !isAssertionError name

/-- Whether a message speaks of an exception. -/
def mentionsException (message : List Char) : Bool :=
  (exceptionWord.findAll message).any fun m => !isAssertionError m.text

/-- The first line that is not blank, or the whole message. -/
def headline (message : List Char) : List Char :=
  (((lines message).map trim).find? fun line => !line.isEmpty).getD message

/-- Confidence of a message that names both sides. -/
def structured : Float :=
  0.95

/-- Confidence of a message that speaks of an exception. -/
def exceptional : Float :=
  0.92

/-- Confidence of any other message. -/
def unrecognised : Float :=
  0.9

/-- The divergence that a failure message reports. There always is one. -/
def interpret (message : List Char) (testLine codeLine : Nat) : Detection :=
  let text (s : List Char) := String.ofList s
  match sides? message with
  | some (form, expected, actual) =>
    .reported .failure
      { kind := .returnValue
        description := s!"Test expected {text expected} but got {text actual}"
        testLine, codeLine, expected := text expected, actual := text actual }
      structured s!"Parsed {form.label} failure message"
  | none =>
    let name := named? message
    if name.isSome || mentionsException message then
      let thrown := (name.map text).getD "an exception"
      .reported .failure
        { kind := .exception, description := s!"Test run failed with {thrown}"
          testLine, codeLine, expected := "no exception", actual := thrown }
        exceptional "Failure message reports an exception"
    else
      let line := text (headline message)
      .reported .failure
        { kind := .returnValue, description := s!"Test failed: {line}"
          testLine, codeLine, expected := "test to pass", actual := line }
        unrecognised "Unrecognised failure message"

/-- The divergence of a pair whose test failed with a message; a blank message says nothing. -/
def detect? (pair : Pair) (message : Option String) : Option Detection :=
  match message with
  | none => none
  | some message =>
    let s := trim message.toList
    if s.isEmpty then none
    else some (interpret s pair.test.firstAssertionLine pair.method.line)

end Adjudicator.Failure
