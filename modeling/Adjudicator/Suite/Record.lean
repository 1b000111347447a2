import Adjudicator.Suite.Declaration

/-!
# Records of tests and methods

Tests, methods and pairs as JSON objects. Every field is written; a side or type that is absent is
null. Reading takes absent fields of this kind for null and refuses any other gap.
-/

namespace Adjudicator

open Json

/-- The record of an assertion. -/
def Assertion.toJson (a : Assertion) : Json :=
  obj
    [("type", str a.kind.name), ("expected", option str a.expected),
      ("actual", option str a.actual), ("lineNumber", nat a.line), ("raw", str a.raw)]

/-- The assertion of a record. -/
def Assertion.ofJson? (j : Json) : Option Assertion := do
  some
    { kind := ← j.field? "type" (named? AssertionKind.all AssertionKind.name)
      expected := ← j.optional? "expected" str?
      actual := ← j.optional? "actual" str?
      line := ← j.field? "lineNumber" nat?
      raw := ← j.field? "raw" str? }

/-- The record of a test. -/
def TestCase.toJson (t : TestCase) : Json :=
  obj
    [("name", str t.name), ("filePath", str t.file), ("lineNumber", nat t.line),
      ("endLine", nat t.endLine), ("framework", str t.framework.name),
      ("assertions", list Assertion.toJson t.assertions), ("body", str t.body)]

/-- The test of a record. -/
def TestCase.ofJson? (j : Json) : Option TestCase := do
  some
    { name := ← j.field? "name" str?
      file := ← j.field? "filePath" str?
      line := ← j.field? "lineNumber" nat?
      endLine := ← j.field? "endLine" nat?
      framework := ← j.field? "framework" (named? Framework.all Framework.name)
      assertions := ← j.field? "assertions" (list? Assertion.ofJson?)
      body := ← j.field? "body" str? }

/-- The record of a parameter. -/
def Parameter.toJson (p : Parameter) : Json :=
  obj [("name", str p.name), ("type", str p.type), ("defaultValue", option str p.fallback)]

/-- The parameter of a record. -/
def Parameter.ofJson? (j : Json) : Option Parameter := do
  some
    { name := ← j.field? "name" str?
      type := ← j.field? "type" str?
      fallback := ← j.optional? "defaultValue" str? }

/-- The record of a method. -/
def Method.toJson (m : Method) : Json :=
  obj
    [("name", str m.name), ("filePath", str m.file), ("lineNumber", nat m.line),
      ("endLine", nat m.endLine), ("parameters", list Parameter.toJson m.parameters),
      ("returnType", option str m.result), ("body", str m.body),
      ("className", option str m.owner)]

/-- The method of a record. -/
def Method.ofJson? (j : Json) : Option Method := do
  some
    { name := ← j.field? "name" str?
      file := ← j.field? "filePath" str?
      line := ← j.field? "lineNumber" nat?
      endLine := ← j.field? "endLine" nat?
      parameters := ← j.field? "parameters" (list? Parameter.ofJson?)
      result := ← j.optional? "returnType" str?
      body := ← j.field? "body" str?
      owner := ← j.optional? "className" str? }

/-- The record of what a source text declares. -/
def Declarations.toJson (d : Declarations) : Json :=
  obj [("tests", list TestCase.toJson d.tests), ("methods", list Method.toJson d.methods)]

/-- The record of a pair. -/
def Pair.toJson (p : Pair) : Json :=
  obj
    [("test", p.test.toJson), ("source", p.method.toJson), ("confidence", float p.confidence),
      ("correlationType", str p.link.name)]

/-- The pair of a record. -/
def Pair.ofJson? (j : Json) : Option Pair := do
  some
    { test := ← j.field? "test" TestCase.ofJson?
      method := ← j.field? "source" Method.ofJson?
      confidence := ← j.field? "confidence" float?
      link := ← j.field? "correlationType" (named? Link.all Link.name) }

end Adjudicator
