import Adjudicator.Code.Arguments
import Adjudicator.Code.Body
import Adjudicator.Pattern.Build
import Adjudicator.Pattern.Search
import Adjudicator.Suite.Declaration

/-!
# Assertion idioms

An idiom is a pattern of one line of test code together with the places of its expected and
actual sides. A table of idioms is run over every line that is not a comment; each idiom that
fits a line gives one assertion, so a line written in two idioms gives two.
-/

namespace Adjudicator.Reader

open Text Code Pattern

/-- Where one side of an assertion stands. -/
inductive Side where
  /-- An argument of the call whose parenthesis ends the match, counted from zero. -/
  | argument (index : Nat)
  /-- A group of the pattern. -/
  | group (number : Nat)
  /-- The arguments of the first call in the match. -/
  | subject
  /-- A constant that the idiom implies. -/
  | fixed (text : String)
  /-- The idiom has no such side. -/
  | absent
deriving DecidableEq, Repr

/-- One way to write an assertion. -/
structure Idiom where
  /-- Pattern of the line. -/
  pattern : Pattern
  /-- What is checked. -/
  kind : AssertionKind
  /-- Place of the expected side. -/
  expected : Side
  /-- Place of the actual side. -/
  actual : Side
  /-- Texts that a line of this idiom does not contain. -/
  without : List String := []

/-- A value without blanks, statement punctuation and the ending of a class literal. -/
def cleanValue (value : List Char) : List Char :=
  let trimmed := trim (dropEndWhile (fun c => c == ';' || c == ',') (trim value))
  match beforeEnd? ".class".toList trimmed with
  | some rest => trim rest
  | none =>
    match beforeEnd? "::class".toList trimmed with
    | some rest => trim rest
    | none => trim trimmed

namespace Idiom

/-- The text of a side, cleaned; nothing when it is empty. -/
def side? (m : Match) : Side → Option String
  | .argument index => clean? (arguments[index]?)
  | .group number => clean? (m.group? number)
  | .subject =>
    let call := (m.subject.drop m.start).dropWhile (· != '(')
    clean? ((balancedArguments? call).map trim)
  | .fixed text => clean? (some text.toList)
  | .absent => none
where
  /-- The arguments of the call whose parenthesis ends the match. -/
  arguments : List (List Char) :=
    if m.stop = 0 then []
    else
      match balancedArguments? (m.subject.drop (m.stop - 1)) with
      | some list => splitTopLevel list
      | none => []
  /-- A cleaned value that is not empty. -/
  clean? (value : Option (List Char)) : Option String :=
    (value.map cleanValue).bind fun v => if v.isEmpty then none else some (String.ofList v)

/-- The assertion that a line makes in this idiom. -/
def read? (idiom : Idiom) (number : Nat) (line : List Char) : Option Assertion :=
  if idiom.without.any fun word => contains word.toList line then none
  else
    (idiom.pattern.find? line).map fun m =>
      { kind := idiom.kind
        expected := side? m idiom.expected
        actual := side? m idiom.actual
        line := number
        raw := String.ofList (trim line) }

end Idiom

/-- The assertions of a body whose first line has the given number. -/
def scanAssertions (table : List Idiom) (body : List Char) (first : Nat) : List Assertion :=
  ((lines body).zipIdx first).flatMap fun (line, number) =>
    if isComment (trim line) then [] else table.filterMap (·.read? number line)

/-- A call of one of several functions, from the start of the name to the parenthesis. -/
def callOf (names : List Pattern) : Pattern :=
  boundary ++ choice names ++ gap ++ "("

/-- A call with any arguments, from the start of its name to its last parenthesis on the line. -/
def chainFrom (name : Pattern) : Pattern :=
  boundary ++ name ++ gap ++ "(" ++ dot.star ++ ")" ++ gap

end Adjudicator.Reader
