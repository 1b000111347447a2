import Adjudicator.Code.Signature
import Adjudicator.Reader.Basic

/-!
# Reading Java

Tests are methods under a test annotation, or public void methods whose name starts with `test`
in files without annotations. The idioms are those of JUnit, TestNG, AssertJ and Hamcrest; TestNG
writes the actual side first.
-/

namespace Adjudicator.Reader.Java

open Text Code Pattern

/-- The modifiers of a method. -/
def modifiers : List String :=
  ["public", "protected", "private", "static", "final", "synchronized", "abstract", "native",
    "default", "strictfp"]

/-- A line with a test annotation. -/
def testAnnotation : Pattern :=
  textStart ++ gap ++ "@" ++
    choice ["Test", "ParameterizedTest", "RepeatedTest", "TestTemplate", "TestFactory"] ++ boundary

/-- A test by its name alone. -/
def namedTest : Pattern :=
  textStart ++ gap ++ "public" ++ space ++ "void" ++ space ++ group 1 ("test" ++ wordChar.star) ++
    gap ++ "("

/-- The start of a method: result type and name. -/
def methodStart : Pattern :=
  textStart ++ gap ++ (choice (modifiers.map text) ++ space).star ++
    opt ("<" ++ (noneOf ">").plus ++ ">" ++ space) ++
    group 1 ((wordOr ".$").plus ++ opt ("<" ++ dot.star ++ ">") ++ ("[]" : Pattern).star) ++
    space ++ group 2 word ++ gap ++ "("

/-- The start of a type. -/
def typeStart : Pattern :=
  boundary ++ choice ["class", "interface", "enum", "record"] ++ space ++ group 1 word

/-- A parameter: annotations, type and name. -/
def parameterPattern : Pattern :=
  textStart ++ ("@" ++ word ++ opt ("(" ++ (noneOf ")").star ++ ")") ++ space).star ++
    opt ("final" ++ space) ++ group 1 dot.plusLazy ++ space ++ group 2 word ++ textEnd

/-- The idioms of JUnit. -/
def junitIdioms : List Idiom :=
  [⟨callOf ["assertEquals"], .equals, .argument 0, .argument 1, []⟩,
    ⟨callOf ["assertArrayEquals"], .equals, .argument 0, .argument 1, []⟩,
    ⟨callOf ["assertSame"], .equals, .argument 0, .argument 1, []⟩,
    ⟨callOf ["assertNotEquals"], .other, .argument 0, .argument 1, []⟩,
    ⟨callOf ["assertTrue"], .truthy, .fixed "true", .argument 0, []⟩,
    ⟨callOf ["assertFalse"], .truthy, .fixed "false", .argument 0, []⟩,
    ⟨callOf ["assertNull"], .other, .fixed "null", .argument 0, []⟩,
    ⟨callOf ["assertNotNull"], .other, .fixed "not null", .argument 0, []⟩,
    ⟨callOf ["assertThrows"], .throws, .argument 0, .absent, []⟩,
    ⟨callOf ["assertDoesNotThrow"], .other, .absent, .absent, []⟩,
    ⟨freshStart ++ "fail" ++ gap ++ "(", .other, .absent, .argument 0, []⟩]

/-- The idioms of AssertJ. -/
def fluentIdioms : List Idiom :=
  [⟨chainFrom "assertThat" ++ ".isEqualTo" ++ gap ++ "(", .equals, .argument 0, .subject, []⟩,
    ⟨chainFrom "assertThat" ++ "." ++ choice ["contains", "containsExactly", "containsOnly"] ++
      gap ++ "(", .contains, .argument 0, .subject, []⟩,
    ⟨chainFrom "assertThat" ++ ".isTrue" ++ gap ++ "(", .truthy, .fixed "true", .subject, []⟩,
    ⟨chainFrom "assertThat" ++ ".isFalse" ++ gap ++ "(", .truthy, .fixed "false", .subject, []⟩,
    ⟨boundary ++ "assertThatThrownBy" ++ boundary ++
      opt (dot.star ++ ".isInstanceOf" ++ gap ++ "(" ++ gap ++ group 1 (wordOr ".").plusLazy ++
        opt ".class" ++ gap ++ ")"), .throws, .group 1, .absent, []⟩,
    ⟨callOf ["assertThatExceptionOfType"], .throws, .argument 0, .absent, []⟩]

/-- The idiom of Hamcrest. -/
def matcherIdioms : List Idiom :=
  [⟨callOf ["assertThat"] ++ gap ++ group 1 (noneOf ",()").plusLazy ++ gap ++ "," ++ gap ++
      choice ["is", "equalTo"] ++ gap ++ "(" ++ gap ++ opt ("equalTo" ++ gap ++ "(") ++ gap ++
      group 2 dot.plusLazy ++ gap ++ (")" : Pattern).plus ++ gap ++ opt ";" ++ gap ++ textEnd,
    .equals, .group 2, .group 1, []⟩]

/-- All idioms. -/
def idioms : List Idiom :=
  junitIdioms ++ fluentIdioms ++ matcherIdioms

/-- The framework that imports point to. -/
def framework (content : List Char) : Framework :=
  if containsAny ["org.junit.jupiter"] content then .junit5
  else if containsAny ["org.testng"] content then .testng
  else if containsAny ["org.junit.Test", "org.junit.Assert", "junit.framework"] content then .junit4
  else if containsAny ["@Test"] content then .junit5
  else .unknown

/-- Index and name of the method that an annotation on line `index` belongs to, among the next
eight lines that are no annotations themselves. -/
def testBelow? (code : List (List Char)) (index : Nat) : Option (Nat × List Char) :=
  ((code.zipIdx.drop (index + 1)).take 8).findSome? fun (line, i) =>
    if (trimStart line).head? = some '@' then none
    else (methodStart.find? line).map fun m => (i, m.group 2)

/-- Indices and names of the tests. -/
def testStarts (code : List (List Char)) : List (Nat × List Char) :=
  if code.any testAnnotation.found then
    code.zipIdx.filterMap fun (line, i) =>
      if testAnnotation.found line then testBelow? code i else none
  else code.zipIdx.filterMap fun (line, i) => (namedTest.find? line).map fun m => (i, m.group 1)

/-- The tests of a text. -/
def tests (code : List (List Char)) : List Located :=
  (testStarts code).filterMap fun (i, name) =>
    (braceBody? code i 5).map fun span => { name, span }

/-- The parameters of a list. -/
def parameters (list : List Char) : List Parameter :=
  (splitTopLevel list).filterMap fun item =>
    (parameterPattern.find? item).map fun m =>
      { name := String.ofList (m.group 2)
        type := String.ofList (trim (m.group 1))
        fallback := none }

/-- The name of the nearest type that begins on line `index` or above it. -/
def ownerAbove (code : List (List Char)) (index : Nat) : Option String :=
  ((code.take (index + 1)).reverse.findSome? typeStart.find?).map fun m => String.ofList (m.group 1)

/-- The method that begins on a line. -/
def methodAt? (file : Path) (code : List (List Char)) (index : Nat) (line : List Char) :
    Option Method := do
  if isComment (trim line) then none
  let m ← methodStart.find? line
  let result := m.group 1
  let name := m.group 2
  if modifiers.contains (String.ofList result) || isControlKeyword result ||
    isControlKeyword name then none
  let span ← braceBody? code index 5
  let list := balancedArguments? ((joinSignature code index 10).1.dropWhile (· != '('))
  some
    { name := String.ofList name
      file
      line := span.first
      endLine := span.last
      parameters := (list.map parameters).getD []
      result := some (String.ofList result)
      body := String.ofList span.text
      owner := ownerAbove code index }

/-- The methods of a file. -/
def methods (file : Path) (code : List (List Char)) : List Method :=
  code.zipIdx.filterMap fun (line, i) => methodAt? file code i line

/-- The assertions of a body. -/
def assertions (framework : Framework) (body : List Char) (first : Nat) : List Assertion :=
  (scanAssertions idioms body first).map fun a =>
    if framework = .testng ∧ containsAny ["assertEquals", "assertNotEquals"] a.raw.toList then
      { a with expected := a.actual, actual := a.expected }
    else a

/-- The reader of Java. -/
def dialect : Dialect :=
  { framework, tests, methods, assertions, parameters }

end Adjudicator.Reader.Java
