import Adjudicator.Assistant.Basic
import Adjudicator.Code.Body
import Adjudicator.Pattern.Build
import Adjudicator.Pattern.Search
import Adjudicator.Suite.Declaration
import Adjudicator.Text.Lines

/-!
# Descriptions without an assistant

What a test expects is read off its assertions, and what a method does off the lines of its body
that are no comments: its results, the errors it raises and the fields it changes.
-/

namespace Adjudicator.Description

open Text Pattern

/-- The expectations of assertions that expect an error, or of the others. -/
def expected (assertions : List Assertion) (errors : Bool) : List String :=
  (assertions.filter fun a => (a.kind == .throws) == errors).filterMap Assertion.expected

/-- What a test expects. -/
def ofTest (t : TestCase) : Expectation :=
  let exceptions := expected t.assertions true
  let count := t.assertions.length
  let description :=
    if count = 0 then s!"{t.name} makes no assertions"
    else if exceptions.isEmpty then s!"{t.name} checks {count} value(s)"
    else s!"{t.name} checks {count} value(s) and expects " ++ ", ".intercalate exceptions
  { description, inputs := t.assertions.filterMap Assertion.actual
    outputs := expected t.assertions false, exceptions }

/-- A line that returns a value. -/
def returnLine : Pattern :=
  textStart ++ gap ++ "return" ++ boundary ++ gap ++ group 1 dot.starLazy ++ gap ++ opt ";" ++
    gap ++ textEnd

/-- A line that raises or makes an error. -/
def errorLine : Pattern :=
  boundary ++ choice
    ["throw" ++ space ++ "new" ++ space ++ word, "throw" ++ boundary, "raise" ++ boundary, "panic!",
      "Err" ++ gap ++ "(", "errors.New", "fmt.Errorf"]

/-- A line that changes a field of the object itself. -/
def effectLine : Pattern :=
  textStart ++ gap ++ choice ["this.", "self."] ++ word ++ ("." ++ word).star ++ gap ++
    opt (anyOf "+-*/") ++ "=" ++ noneOf "="

/-- The trimmed lines of a body that hold code. -/
def codeLines (body : String) : List (List Char) :=
  ((stringLines body).map trim).filter fun line => !line.isEmpty && !Code.isComment line

/-- The value that a line returns. -/
def returned? (line : List Char) : Option String :=
  ((returnLine.find? line).map fun m => m.group 1).bind fun value =>
    if value.isEmpty then none else some (String.ofList value)

/-- The lines that a pattern fits, without semicolons at their ends. -/
def matching (p : Pattern) (code : List (List Char)) : List String :=
  (code.filter p.found).map fun line => String.ofList (dropEndWhile (· == ';') line)

/-- The results of a method in words. -/
def resultText (returns : List String) : String :=
  if returns.isEmpty then "No explicit return" else "Returns " ++ " or ".intercalate returns

/-- What a method does. -/
def ofMethod (m : Method) : Behavior :=
  let code := codeLines m.body
  let returns := resultText (code.filterMap returned?)
  let owner := (m.owner.map fun o => o ++ ".").getD ""
  { description := s!"{owner}{m.name}: {returns}", sideEffects := matching effectLine code, returns
    errors := matching errorLine code }

end Adjudicator.Description
