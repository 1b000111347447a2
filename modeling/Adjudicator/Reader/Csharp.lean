import Adjudicator.Code.Signature
import Adjudicator.Reader.Basic

/-!
# Reading C#

Tests are methods below a test attribute, each once however many attributes it has. Methods with
an expression body take one line. The idioms are those of NUnit, xUnit, MSTest and
FluentAssertions.
-/

namespace Adjudicator.Reader.Csharp

open Text Code Pattern

/-- A line with a test attribute. -/
def testAttribute : Pattern :=
  textStart ++ gap ++ "[" ++
    choice ["Test", "Fact", "Theory", "TestMethod", "DataTestMethod", "TestCase"] ++ boundary

/-- The modifiers of a method. -/
def modifiers : List String :=
  ["public", "private", "protected", "internal", "static", "virtual", "override", "abstract",
    "async", "sealed", "extern", "new", "partial", "unsafe"]

/-- Words that are no result types. -/
def noResults : List String :=
  modifiers ++ ["var", "await", "class"]

/-- The start of a method: result type and name. -/
def methodStart : Pattern :=
  textStart ++ gap ++ (choice (modifiers.map text) ++ space).star ++
    group 1
      ((wordOr ".").plus ++ opt ("<" ++ dot.starLazy ++ ">") ++ ("[]" : Pattern).star ++
        opt "?") ++
    space ++ group 2 word ++ gap ++ opt ("<" ++ (noneOf ">").star ++ ">") ++ gap ++ "("

/-- The start of a type. -/
def typeStart : Pattern :=
  boundary ++ choice ["class", "struct", "record", "interface"] ++ space ++ group 1 word

/-- A parameter: attribute, modifier, type, name and default value. -/
def parameterPattern : Pattern :=
  textStart ++ opt ("[" ++ (noneOf "]").star ++ "]" ++ gap) ++
    opt (choice ["ref", "out", "in", "params", "this"] ++ space) ++ group 1 dot.plusLazy ++
    space ++ group 2 word ++ opt (gap ++ "=" ++ gap ++ group 3 dot.plus) ++ textEnd

/-- A call of one of the assertions of a class. -/
def assertCall (names : List Pattern) : Pattern :=
  boundary ++ "Assert." ++ choice names ++ gap ++ "("

/-- The first argument of a constraint assertion, up to the constraint. -/
def constraint (pattern : Pattern) : Pattern :=
  boundary ++ "Assert.That" ++ gap ++ "(" ++ gap ++ group 1 dot.plusLazy ++ gap ++ "," ++ gap ++
    pattern

/-- The name of an exception between angle brackets. -/
def exceptionName : Pattern :=
  gap ++ "<" ++ gap ++ group 1 (wordOr ".").plus ++ gap ++ ">"

/-- The idioms of NUnit, xUnit and MSTest. -/
def classicIdioms : List Idiom :=
  [⟨assertCall ["AreEqual", "Equal"], .equals, .argument 0, .argument 1, []⟩,
    ⟨assertCall ["AreNotEqual", "NotEqual"], .other, .argument 0, .argument 1, []⟩,
    ⟨assertCall ["IsTrue", "True"], .truthy, .fixed "true", .argument 0, []⟩,
    ⟨assertCall ["IsFalse", "False"], .truthy, .fixed "false", .argument 0, []⟩,
    ⟨assertCall ["IsNull", "Null", "IsNotNull", "NotNull"], .other, .fixed "null", .argument 0,
      []⟩,
    ⟨boundary ++ "Assert." ++
      choice ["Throws", "ThrowsAsync", "ThrowsException", "ThrowsExceptionAsync"] ++
      exceptionName, .throws, .group 1, .absent, []⟩,
    ⟨boundary ++ choice ["Assert", "StringAssert", "CollectionAssert"] ++ ".Contains" ++ gap ++
      "(", .contains, .argument 0, .argument 1, []⟩,
    ⟨constraint ("Is.EqualTo" ++ gap ++ "("), .equals, .argument 0, .group 1, []⟩,
    ⟨constraint ("Is.True" ++ boundary), .truthy, .fixed "true", .group 1, []⟩,
    ⟨constraint ("Is.False" ++ boundary), .truthy, .fixed "false", .group 1, []⟩,
    ⟨constraint ("Does.Contain" ++ gap ++ "("), .contains, .argument 0, .group 1, []⟩]

/-- A value followed by one of the fluent assertions. -/
def should (name : Pattern) : Pattern :=
  textStart ++ gap ++ group 1 dot.plusLazy ++ gap ++ ".Should()" ++ gap ++ name ++ gap ++ "("

/-- The idioms of FluentAssertions. -/
def fluentIdioms : List Idiom :=
  [⟨should ".Be", .equals, .argument 0, .group 1, []⟩,
    ⟨should ".BeEquivalentTo", .equals, .argument 0, .group 1, []⟩,
    ⟨should ".BeTrue", .truthy, .fixed "true", .group 1, []⟩,
    ⟨should ".BeFalse", .truthy, .fixed "false", .group 1, []⟩,
    ⟨should ".Contain", .contains, .argument 0, .group 1, []⟩,
    ⟨".Should()" ++ gap ++ ".Throw" ++ opt "Exactly" ++ opt "Async" ++ exceptionName, .throws,
      .group 1, .absent, []⟩]

/-- All idioms. -/
def idioms : List Idiom :=
  classicIdioms ++ fluentIdioms

/-- The framework that imports and attributes point to. -/
def framework (content : List Char) : Framework :=
  if containsAny ["using NUnit"] content then .nunit
  else if containsAny ["using Xunit"] content then .xunit
  else if containsAny ["Microsoft.VisualStudio.TestTools"] content then .mstest
  else if containsAny ["[Fact", "[Theory"] content then .xunit
  else if containsAny ["[TestMethod"] content then .mstest
  else if containsAny ["[Test"] content then .nunit
  else .unknown

/-- Result type and name of the method that begins on a line. -/
def declared? (line : List Char) : Option (List Char × List Char) :=
  (methodStart.find? line).bind fun m =>
    let result := m.group 1
    let name := m.group 2
    if noResults.contains (String.ofList result) || isControlKeyword result ||
      isControlKeyword name then none
    else some (result, name)

/-- Index and name of the method that an attribute on line `index` belongs to, among the next
eight lines that are no attributes themselves. -/
def testBelow? (code : List (List Char)) (index : Nat) : Option (Nat × List Char) :=
  ((code.zipIdx.drop (index + 1)).take 8).findSome? fun (line, i) =>
    if (trimStart line).head? = some '[' then none
    else (declared? line).map fun (_, name) => (i, name)

/-- The first of the places with each index. -/
def firstPlaces (places : List (Nat × List Char)) : List (Nat × List Char) :=
  places.foldl (fun kept p => if kept.any (·.1 == p.1) then kept else kept ++ [p]) []

/-- The tests of a text. -/
def tests (code : List (List Char)) : List Located :=
  let places := code.zipIdx.filterMap fun (line, i) =>
    if testAttribute.found line then testBelow? code i else none
  (firstPlaces places).filterMap fun (i, name) =>
    (braceBody? code i 5).map fun span => { name, span }

/-- Spans and names of the types. -/
def types (code : List (List Char)) : List (Span × List Char) :=
  code.zipIdx.filterMap fun (line, i) =>
    if isComment (trim line) then none
    else (typeStart.find? line).bind fun m => (braceBody? code i 3).map (·, m.group 1)

/-- The parameters of a list. -/
def parameters (list : List Char) : List Parameter :=
  (splitTopLevel list).filterMap fun item =>
    (parameterPattern.find? item).map fun m =>
      { name := String.ofList (m.group 2)
        type := String.ofList (trim (m.group 1))
        fallback := (m.group? 3).map fun v => String.ofList (trim v) }

/-- The method that begins on a line. -/
def methodAt? (file : Path) (code : List (List Char)) (owners : List (Span × List Char))
    (index : Nat) (line : List Char) : Option Method := do
  if isComment (trim line) then none
  let (result, name) ← declared? line
  let signature := (joinSignature code index 10).1
  let span ←
    match braceBody? code index 5 with
    | some span => some span
    | none => if containsAny ["=>"] signature then some (lineSpan index line) else none
  let before := ((cutAt? name signature).map (·.1)).getD []
  let call := (signature.drop before.length).dropWhile (· != '(')
  some
    { name := String.ofList name
      file
      line := span.first
      endLine := span.last
      parameters := ((balancedArguments? call).map parameters).getD []
      result := some (String.ofList result)
      body := String.ofList span.text
      owner := ownerAt owners index }

/-- The methods of a file. -/
def methods (file : Path) (code : List (List Char)) : List Method :=
  let owners := types code
  code.zipIdx.filterMap fun (line, i) => methodAt? file code owners i line

/-- The assertions of a body. -/
def assertions (_ : Framework) (body : List Char) (first : Nat) : List Assertion :=
  scanAssertions idioms body first

/-- The reader of C#. -/
def dialect : Dialect :=
  { framework, tests, methods, assertions, parameters }

end Adjudicator.Reader.Csharp
