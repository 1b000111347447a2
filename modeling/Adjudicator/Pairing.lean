import Adjudicator.Pattern.Build
import Adjudicator.Pattern.Search
import Adjudicator.Suite.Declaration
import Adjudicator.Text.Lowercase
import Adjudicator.Text.Search

/-!
# Pairing tests with methods

A test name is normalised by taking off what marks it as a test and lowering the rest. The first
method whose lowered name equals the result is taken, or else the first whose name contains it or
is contained in it, or else the first that the test's body calls. A test that no rule helps has
no pair.
-/

namespace Adjudicator.Pairing

open Text

/-- What follows `start`, a text in lower case, in any case of ASCII letters. -/
def afterFolded? (start s : List Char) : Option (List Char) :=
  if foldEq (s.take start.length) start then some (s.drop start.length) else none

/-- Takes off a start in any case, where there is one. -/
def dropFolded (s : List Char) (start : String) : List Char :=
  (afterFolded? start.toList s).getD s

/-- Takes off a start that a capital or an underscore follows, and the underscores behind it. -/
def dropStart (s : List Char) (start : String) : List Char :=
  match afterStart? start.toList s with
  | some (c :: rest) =>
    if isAsciiUpper c || c == '_' then (c :: rest).dropWhile (· == '_') else s
  | _ => s

/-- Takes off an ending that is not the whole name. -/
def dropEnding (s : List Char) (ending : String) : List Char :=
  match beforeEnd? ending.toList s with
  | some (c :: rest) => c :: rest
  | _ => s

/-- A test name without the marks of a test, in lower case. -/
def normalizeName (name : List Char) : List Char :=
  let folded := ["test_", "should_", "should "].foldl dropFolded (trim name)
  let started := ["test", "Test", "should"].foldl dropStart folded
  lower (["_test", "Test", "_should"].foldl dropEnding started)

/-- Whether a body calls a function: its name and a parenthesis stand behind no character of an
identifier. -/
def calls (body name : List Char) : Bool :=
  ((Pattern.chars (name ++ ['('])).findAll body).any fun m =>
    match m.start with
    | 0 => true
    | n + 1 => (body[n]?).all fun c => !(isAlphanumeric c || c == '_')

/-- Confidence of a pair whose names are equal. -/
def equalNames : Float :=
  0.9

/-- Confidence of a pair in which one name contains the other. -/
def relatedNames : Float :=
  0.7

/-- Confidence of a pair found by a call. -/
def callFound : Float :=
  0.8

/-- Whether one of two names contains the other, where the second is not empty. -/
def related (normalized lowered : List Char) : Bool :=
  !lowered.isEmpty && (contains lowered normalized || contains normalized lowered)

/-- The index of the method that a test exercises, with confidence and reason. -/
def choose? (name body : List Char) (methods : List (List Char)) : Option (Nat × Float × Link) :=
  let normalized := normalizeName name
  let byName :=
    if normalized.isEmpty then none
    else
      let lowered := methods.map lower
      match lowered.findIdx? (· == normalized) with
      | some i => some (i, equalNames, .namingConvention)
      | none => (lowered.findIdx? (related normalized)).map (·, relatedNames, .namingConvention)
  match byName with
  | some choice => some choice
  | none =>
    (methods.findIdx? fun name => !name.isEmpty && calls body name).map (·, callFound, .callGraph)

/-- The pair of a test with a method of the pool. -/
def pairFor? (methods : List Method) (names : List (List Char)) (test : TestCase) :
    Option Pair := do
  let (i, confidence, link) ← choose? test.name.toList test.body.toList names
  let method ← methods[i]?
  some { test, method, confidence, link }

/-- The pairs of the tests, in their order. -/
def pairs (tests : List TestCase) (methods : List Method) : List Pair :=
  let names := methods.map fun m => m.name.toList
  tests.filterMap (pairFor? methods names)

end Adjudicator.Pairing
