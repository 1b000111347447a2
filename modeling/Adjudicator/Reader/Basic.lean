import Adjudicator.Reader.Idiom

/-!
# Readers

A reader finds the tests and methods that a source text in one language declares. Reading never
fails: a text that the reader does not understand declares less. A declaration that is a test is
not listed as a method.
-/

namespace Adjudicator.Reader

open Text Code

/-- A test that was found in the lines of a text. -/
structure Located where
  /-- Name or title. -/
  name : List Char
  /-- The lines of the test. -/
  span : Span
  /-- Assertions that stand outside the body. -/
  leading : List Assertion := []
deriving DecidableEq, Repr

/-- Reads source texts of one language. -/
structure Dialect where
  /-- Framework that imports and annotations of a text point to. -/
  framework : List Char → Framework
  /-- Tests in the lines of a text. -/
  tests : List (List Char) → List Located
  /-- Methods in the lines of a file. -/
  methods : Path → List (List Char) → List Method
  /-- Assertions of a body with its first line, under a framework. -/
  assertions : Framework → List Char → Nat → List Assertion
  /-- Parameters of a list. -/
  parameters : List Char → List Parameter

namespace Dialect

/-- The test at a place of a file. -/
def testCase (d : Dialect) (file : Path) (framework : Framework) (t : Located) : TestCase :=
  { name := String.ofList t.name
    file
    line := t.span.first
    endLine := t.span.last
    framework
    assertions := t.leading ++ d.assertions framework t.span.text t.span.first
    body := String.ofList t.span.text }

/-- What a text declares. -/
def read (d : Dialect) (file : Path) (content : List Char) : Declarations :=
  let framework := d.framework content
  let code := lines content
  let tests := (d.tests code).map (d.testCase file framework)
  let methods := (d.methods file code).filter fun m => tests.all fun t => t.line != m.line
  ⟨tests, methods⟩

end Dialect

/-- The span of one line. -/
def lineSpan (index : Nat) (line : List Char) : Span :=
  ⟨index + 1, index + 1, line⟩

/-- Whether a text contains one of several words. -/
def containsAny (words : List String) (s : List Char) : Bool :=
  words.any fun word => contains word.toList s

/-- The name of the last type whose span begins above a line and contains it. -/
def ownerAt (types : List (Span × List Char)) (index : Nat) : Option String :=
  ((types.filter fun (span, _) => span.first - 1 < index && index < span.last).getLast?).map
    fun (_, name) => String.ofList name

end Adjudicator.Reader
