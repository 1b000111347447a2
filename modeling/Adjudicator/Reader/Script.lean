import Adjudicator.Code.Signature
import Adjudicator.Reader.Basic

/-!
# Reading TypeScript and JavaScript

Tests are calls of `it` and `test` with a title. Methods are functions, functions bound to a name
and the methods of classes; what a test harness calls is no method. The idioms are those of Jest,
Vitest, Chai and the assert module.
-/

namespace Adjudicator.Reader.Script

open Text Code Pattern

/-- One of the three quotes. -/
def anyQuote : Pattern :=
  one fun c => c == '\'' || c == '"' || c == backtick

/-- A character of an identifier. -/
def nameChar : Pattern :=
  wordOr "$"

/-- An identifier. -/
def identifier : Pattern :=
  nameChar.plus

/-- Type parameters, where there are any. -/
def typeParameters : Pattern :=
  opt ("<" ++ (noneOf ">").star ++ ">")

/-- A call that declares a test, with its quote and title. -/
def testCall : Pattern :=
  textStart ++ gap ++ choice ["it", "test"] ++
    opt (choice [".only", ".skip", ".concurrent", ".todo"]) ++ gap ++ "(" ++ gap ++
    group 1 anyQuote ++ group 2 dot.plusLazy ++ anyQuote

/-- The start of a function. -/
def functionStart : Pattern :=
  textStart ++ gap ++ opt ("export" ++ space) ++ opt ("default" ++ space) ++
    opt ("async" ++ space) ++ "function" ++ gap ++ opt "*" ++ gap ++ group 1 identifier ++ gap ++
    typeParameters ++ gap ++ "("

/-- The start of a function bound to a name. -/
def boundFunction : Pattern :=
  textStart ++ gap ++ opt ("export" ++ space) ++ choice ["const", "let", "var"] ++ space ++
    group 1 identifier ++ gap ++ opt (":" ++ (noneOf "=").star) ++ "=" ++ gap ++
    opt ("async" ++ space) ++
    choice ["function" ++ boundary, "(", identifier ++ gap ++ "=>", "<"]

/-- The start of a method of a class. -/
def methodStart : Pattern :=
  textStart ++ gap ++
    (choice ["public", "private", "protected", "static", "async", "readonly", "override",
      "abstract", "get", "set"] ++ space).star ++
    opt "*" ++ group 1 identifier ++ gap ++ typeParameters ++ gap ++ "("

/-- The start of a class. -/
def classStart : Pattern :=
  textStart ++ gap ++ opt ("export" ++ space) ++ opt ("default" ++ space) ++
    opt ("abstract" ++ space) ++ "class" ++ space ++ group 1 identifier

/-- A parameter: name or pattern, type and default value. -/
def parameterPattern : Pattern :=
  textStart ++ (choice ["public", "private", "protected", "readonly"] ++ space).star ++
    opt "..." ++
    group 1
      (choice
        [identifier, "\x7b" ++ (noneOf "\x7d").star ++ "\x7d", "[" ++ (noneOf "]").star ++ "]"]) ++
    opt "?" ++ gap ++ opt (":" ++ gap ++ group 2 dot.plusLazy) ++ gap ++
    opt ("=" ++ gap ++ group 3 (one (fun c => !(isBlank c || c == '>')) ++ dot.star)) ++ textEnd

/-- Names that look like methods and belong to a test harness or to the language. -/
def harnessNames : List String :=
  ["describe", "it", "test", "expect", "beforeEach", "afterEach", "beforeAll", "afterAll",
    "before", "after", "suite", "constructor", "require", "void"]

/-- The idioms of Jest and Vitest. -/
def matcherIdioms : List Idiom :=
  [⟨chainExpect ++ opt (gap ++ "." ++ gap ++ choice ["resolves", "rejects"]) ++ gap ++ "." ++
      choice ["toBe", "toEqual", "toStrictEqual", "toBeCloseTo"] ++ gap ++ "(",
    .equals, .argument 0, .subject, negated⟩,
    ⟨chainExpect ++ gap ++ opt ".to" ++ gap ++ ".not" ++ gap ++ "." ++ word ++ gap ++ "(",
      .other, .argument 0, .subject, []⟩,
    ⟨chainExpect ++ opt (gap ++ "." ++ gap ++ "rejects") ++ gap ++ "." ++
      choice ["toThrow", "toThrowError"] ++ gap ++ "(", .throws, .argument 0, .subject, negated⟩,
    ⟨chainExpect ++ gap ++ ".toBeTruthy" ++ gap ++ "(", .truthy, .fixed "true", .subject,
      negated⟩,
    ⟨chainExpect ++ gap ++ ".toBeFalsy" ++ gap ++ "(", .truthy, .fixed "false", .subject,
      negated⟩,
    ⟨chainExpect ++ gap ++ "." ++ choice ["toContain", "toContainEqual"] ++ gap ++ "(",
      .contains, .argument 0, .subject, negated⟩,
    ⟨chainExpect ++ gap ++ "." ++
      choice ["toHaveLength", "toBeNull", "toBeUndefined", "toBeDefined", "toBeGreaterThan",
        "toBeGreaterThanOrEqual", "toBeLessThan", "toBeLessThanOrEqual", "toMatch",
        "toMatchObject", "toHaveBeenCalled" ++ wordChar.star, "toHaveProperty",
        "toBeInstanceOf", "toBeNaN", "toMatchSnapshot"] ++ gap ++ "(",
      .other, .argument 0, .subject, negated⟩]
where
  /-- A call of `expect` up to its last parenthesis on the line. -/
  chainExpect : Pattern := boundary ++ "expect" ++ gap ++ "(" ++ dot.star ++ ")"
  /-- What negates a matcher. -/
  negated : List String := [".not."]

/-- The idioms of Chai's expectations. -/
def chaiIdioms : List Idiom :=
  [⟨chainFrom "expect" ++ ".to" ++ opt ".be" ++ opt ".deep" ++ "." ++ choice ["equal", "eql"] ++
      gap ++ "(", .equals, .argument 0, .subject, [".not."]⟩,
    ⟨chainFrom "expect" ++ ".to.be.true" ++ boundary, .truthy, .fixed "true", .subject, []⟩,
    ⟨chainFrom "expect" ++ ".to.be.false" ++ boundary, .truthy, .fixed "false", .subject, []⟩,
    ⟨chainFrom "expect" ++ ".to." ++ choice ["include", "contain"] ++ gap ++ "(", .contains,
      .argument 0, .subject, [".not."]⟩,
    ⟨chainFrom "expect" ++ ".to.throw" ++ gap ++ "(", .throws, .argument 0, .subject,
      [".not."]⟩]

/-- A call of a function of the assert module. -/
def assertCall (names : List Pattern) : Pattern :=
  boundary ++ "assert" ++ gap ++ "." ++ gap ++ choice names ++ gap ++ "("

/-- The idioms of the assert module. -/
def assertIdioms : List Idiom :=
  [⟨assertCall ["equal", "strictEqual", "deepEqual", "deepStrictEqual"], .equals, .argument 1,
      .argument 0, []⟩,
    ⟨assertCall ["notEqual", "notStrictEqual", "notDeepEqual", "notDeepStrictEqual"], .other,
      .argument 1, .argument 0, []⟩,
    ⟨assertCall ["throws", "rejects"], .throws, .argument 1, .absent, []⟩,
    ⟨assertCall ["ok", "isTrue"], .truthy, .fixed "true", .argument 0, []⟩,
    ⟨assertCall ["isFalse"], .truthy, .fixed "false", .argument 0, []⟩,
    ⟨assertCall ["include"], .contains, .argument 1, .argument 0, []⟩,
    ⟨callOf ["assert"], .truthy, .fixed "true", .argument 0, []⟩]

/-- All idioms. -/
def idioms : List Idiom :=
  matcherIdioms ++ chaiIdioms ++ assertIdioms

/-- The framework that imports point to. -/
def framework (content : List Char) : Framework :=
  if containsAny ["from 'vitest'", "from \"vitest\""] content then .vitest
  else if containsAny ["@jest/globals", "jest."] content then .jest
  else if containsAny ["node:test"] content then .nodeTest
  else if containsAny ["chai", "mocha"] content then .mocha
  else if testCall.found content || containsAny ["describe("] content then .jest
  else .unknown

/-- The tests of a text. A test without braces takes one line. -/
def tests (code : List (List Char)) : List Located :=
  code.zipIdx.filterMap fun (line, i) =>
    (testCall.find? line).map fun m =>
      { name := m.group 2, span := (braceBody? code i 3).getD (lineSpan i line) }

/-- Spans and names of the classes. -/
def classes (code : List (List Char)) : List (Span × List Char) :=
  code.zipIdx.filterMap fun (line, i) =>
    (classStart.find? line).bind fun m => (braceBody? code i 3).map (·, m.group 1)

/-- The name that a line declares, and whether it is declared as a method of a class. -/
def declared? (line : List Char) : Option (List Char × Bool) :=
  match functionStart.find? line, boundFunction.find? line, methodStart.find? line with
  | some m, _, _ => some (m.group 1, false)
  | none, some m, _ => some (m.group 1, false)
  | none, none, some m => some (m.group 1, true)
  | none, none, none => none

/-- The parameters of a list. A parameter without a type has any type. -/
def parameters (list : List Char) : List Parameter :=
  (splitTopLevel list).filterMap fun item =>
    (parameterPattern.find? item).map fun m =>
      { name := String.ofList (m.group 1)
        type := ((m.group? 2).map fun t => String.ofList (trim t)).getD "any"
        fallback := ((m.group? 3).map trim).bind fun v =>
          if v.isEmpty then none else some (String.ofList v) }

/-- The annotated result type behind a parameter list. -/
def resultType? (call : List Char) : Option String := do
  let rest ← afterArguments? call
  let written ← afterStart? [':'] (trimStart rest)
  let upToArrow := (cutAt? " =>".toList written).map (·.1)
  let type := trim (upToArrow.getD (written.takeWhile (· != '{')))
  if type.isEmpty then none else some (String.ofList type)

/-- The method that begins on a line. -/
def methodAt? (file : Path) (code : List (List Char)) (types : List (Span × List Char))
    (index : Nat) (line : List Char) : Option Method := do
  if isComment (trim line) || testCall.found line then none
  let (name, shorthand) ← declared? line
  if isControlKeyword name || harnessNames.contains (String.ofList name) then none
  let signature := (joinSignature code index 10).1
  let arrow := containsAny ["=>"] signature
  if shorthand && (arrow || containsAny ["function"] signature ||
    (trimEnd signature).getLast? != some '{') then none
  let span ←
    match braceBody? code index 3 with
    | some span => some span
    | none => if arrow then some (lineSpan index line) else none
  let atName := ((cutAt? name signature).map fun (before, _) => signature.drop before.length).getD
    signature
  let call := atName.dropWhile (· != '(')
  some
    { name := String.ofList name
      file
      line := span.first
      endLine := span.last
      parameters := ((balancedArguments? call).map parameters).getD []
      result := resultType? call
      body := String.ofList span.text
      owner := ownerAt types index }

/-- The methods of a file. -/
def methods (file : Path) (code : List (List Char)) : List Method :=
  let types := classes code
  code.zipIdx.filterMap fun (line, i) => methodAt? file code types i line

/-- The assertions of a body. -/
def assertions (_ : Framework) (body : List Char) (first : Nat) : List Assertion :=
  scanAssertions idioms body first

/-- The reader of TypeScript and JavaScript. -/
def dialect : Dialect :=
  { framework, tests, methods, assertions, parameters }

end Adjudicator.Reader.Script
