import Adjudicator.Divergence.Basic
import Adjudicator.Outline.Read
import Adjudicator.Value.Source

/-!
# Divergences between numbers

The numbers that a test asserts are compared with those of its method. First the outlines of both
are compared; then an expectation that no number of the method explains is looked at: a number
close to it, or a rate that gives another percentage, is a divergence. Last, a test that expects
an error diverges from a method that raises none.
-/

namespace Adjudicator.Static

open Text Value

/-- A number as a string. -/
def shownText (x : Float) : String :=
  String.ofList (shown x)

/-- Confidence of a mismatch between outlines. -/
def outlineConfidence : Float :=
  0.8

/-- Confidence of a number that is close but wrong. -/
def ratioConfidence : Float :=
  0.75

/-- Confidence of a rate that gives another percentage. -/
def rateConfidence : Float :=
  0.75

/-- Confidence of an error that is never raised. -/
def errorConfidence : Float :=
  0.7

/-- The mismatch between the outlines of a pair. -/
def outlineMismatch? (pair : Pair) (file : Option (List Char))
    (grammars : Outline.Grammars := .usual) : Option Detection := do
  let language ← pair.language?
  match Outline.comparePair language ⟨pair.test.body.toList, pair.test.line⟩
      ⟨pair.method.body.toList, pair.method.line⟩ file grammars with
  | .mismatch m =>
    some
      (.reported .static
        { kind := .returnValue, description := m.description, testLine := m.testLine
          codeLine := m.codeLine, expected := shownText m.expected, actual := shownText m.actual }
        outlineConfidence "AST comparison of assertion and source values")
  | _ => none

/-- A number that a test expects, with the line of its assertion. -/
structure Expectation where
  /-- Line of the assertion. -/
  line : Nat
  /-- The expected number. -/
  value : Float
deriving Repr

/-- The number that an equality assertion expects. -/
def expectation? (a : Assertion) : Option Expectation :=
  if a.kind = .equals then
    a.expected.bind fun e => (readNumeric? e.toList).map fun value => ⟨a.line, value⟩
  else none

/-- The numbers that assertions expect. -/
def expectations (assertions : List Assertion) : List Expectation :=
  assertions.filterMap expectation?

/-- Whether a number of the code explains an expectation, as it stands or as a percentage. -/
def explains (value expected : Float) : Bool :=
  near value expected ||
    (0.0 < value && value < 1.0 &&
      (near (100.0 * (1.0 - value)) expected || near (100.0 * value) expected))

/-- Whether a number is close to an expectation and yet another one. -/
def isCloseMiss (expected value : Float) : Bool :=
  let ratio := value / expected
  1.0 ≤ Number.abs (value - expected) && 0.7 < ratio && ratio < 1.3

/-- The divergence by a number that is close but wrong. -/
def ratioMismatch? (values : List SourceValue) (e : Expectation) : Option Detection :=
  if e.value == 0.0 then none
  else
    (values.find? fun v => isCloseMiss e.value v.value).map fun v =>
      let expected := shownText e.value
      let actual := shownText v.value
      .reported .static
        { kind := .returnValue
          description := s!"Test expects {expected} but the method uses {actual} (" ++
            String.ofList (Code.backtick :: v.context ++ [Code.backtick, ')'])
          testLine := e.line, codeLine := v.line, expected, actual }
        ratioConfidence "Asserted value is close to but different from a source value"

/-- The percentage that a rate gives, and how far it is from an expected one. A rate of at least a
half is what remains, a smaller one what is taken off. -/
def impliedPercentage (expected value : Float) : Float × Float :=
  let percent := Number.round (value * 100.0)
  if 0.5 ≤ value then (percent, Number.abs (percent - expected))
  else (100.0 - percent, Number.abs ((100.0 - expected) - percent))

/-- Percentages further apart than this have nothing to do with each other. -/
def maxRateGap : Float :=
  20.0

/-- Whether a number can be a percentage after a discount. -/
def isDiscounted (x : Float) : Bool :=
  80.0 ≤ x && x < 100.0

/-- Whether a number can be a rate. -/
def isRate (x : Float) : Bool :=
  0.0 < x && x < 1.0

/-- The divergence by one rate of the method. -/
def rateMismatchWith? (e : Expectation) (v : SourceValue) : Option Detection :=
  let (implied, gap) := impliedPercentage e.value v.value
  if isRate v.value && 0.0 < gap && gap ≤ maxRateGap then
    let expected := shownText e.value
    let actual := shownText implied
    let rate := shownText (100.0 - e.value)
    some
      (.reported .static
        { kind := .returnValue
          description :=
            s!"Rate mismatch: test expects {expected} ({rate}% rate) but the method applies " ++
              s!"{shownText v.value} (" ++
              String.ofList (Code.backtick :: v.context ++ [Code.backtick]) ++
              s!"), giving {actual}"
          testLine := e.line, codeLine := v.line, expected, actual }
        rateConfidence "Percentage and rate representations disagree")
  else none

/-- The divergence by a rate that gives another percentage. -/
def rateMismatch? (values : List SourceValue) (e : Expectation) : Option Detection :=
  if isDiscounted e.value then values.findSome? (rateMismatchWith? e) else none

/-- The divergence between the numbers of a test and those of its method. -/
def valueMismatch? (pair : Pair) : Option Detection :=
  let values := ofBody pair.method.body.toList pair.method.line
  let unexplained := (expectations pair.test.assertions).filter fun e =>
    !values.any fun v => explains v.value e.value
  match unexplained.findSome? (ratioMismatch? values) with
  | some d => some d
  | none => unexplained.findSome? (rateMismatch? values)

/-- Takes an ending off as often as it is there. -/
def dropEndings (ending : List Char) : Nat → List Char → List Char
  | 0, s => s
  | fuel + 1, s =>
    match beforeEnd? ending s with
    | some rest => dropEndings ending fuel rest
    | none => s

/-- The name of an expected error, without what a language puts around it. -/
def errorName (raw : List Char) : List Char :=
  let s := trim raw
  let inner :=
    ((afterStart? "typeof(".toList s).bind (beforeEnd? [')'])).getD s
  let bare := dropEndings ".class".toList inner.length inner
  trim (dropEndings "::class".toList bare.length bare)

/-- The divergence of a test that expects an error from a method that raises none. -/
def missingError? (pair : Pair) : Option Detection := do
  let a ← pair.test.assertions.find? fun a => a.kind = .throws
  guard !(raises pair.method.body.toList)
  let named := (a.expected.map fun e => errorName e.toList).filter fun name => !name.isEmpty
  let expected := (named.map String.ofList).getD "an exception"
  some
    (.reported .static
      { kind := .exception
        description := s!"Test expects {expected} but {pair.method.name} never throws"
        testLine := a.line, codeLine := pair.method.line, expected
        actual := "no exception thrown" }
      errorConfidence "Expected exception has no throw site in the method")

/-- The divergence between a test and its method that shows without running them. -/
def detect? (pair : Pair) (file : Option (List Char)) (grammars : Outline.Grammars := .usual) :
    Option Detection :=
  match outlineMismatch? pair file grammars with
  | some d => some d
  | none =>
    match valueMismatch? pair with
    | some d => some d
    | none => missingError? pair

end Adjudicator.Static
