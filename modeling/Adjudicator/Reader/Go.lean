import Adjudicator.Code.Signature
import Adjudicator.Reader.Basic

/-!
# Reading Go

Tests are functions that take the testing handle, and what takes it is no method. Parameters
without a type of their own have the type of the next one that has. The idioms are those of
testify and a comparison that leads to a failure.
-/

namespace Adjudicator.Reader.Go

open Text Code Pattern

/-- Type parameters or arguments, where there are any. -/
def typeArguments : Pattern :=
  opt ("[" ++ (noneOf "]").star ++ "]")

/-- The start of a test. -/
def testStart : Pattern :=
  textStart ++ "func" ++ space ++ group 1 ("Test" ++ wordChar.star) ++ gap ++ "(" ++ gap ++ word ++
    space ++ "*testing.T" ++ gap ++ ")"

/-- The start of a function, with the type of its receiver where it has one. -/
def functionStart : Pattern :=
  textStart ++ "func" ++ space ++
    opt ("(" ++ gap ++ opt (word ++ space) ++ opt "*" ++ gap ++ group 1 word ++ typeArguments ++
      gap ++ ")" ++ gap) ++
    group 2 word ++ gap ++ typeArguments ++ gap ++ "("

/-- A call of one of testify's assertions. -/
def testifyCall (names : List Pattern) : Pattern :=
  boundary ++ choice ["assert", "require"] ++ "." ++ choice names ++ gap ++ "("

/-- The idioms of testify. -/
def testifyIdioms : List Idiom :=
  [⟨testifyCall ["Equal", "Equalf", "EqualValues", "Exactly", "InDelta", "InEpsilon"], .equals,
      .argument 1, .argument 2, []⟩,
    ⟨testifyCall ["NotEqual", "NotEqualValues"], .other, .argument 1, .argument 2, []⟩,
    ⟨testifyCall ["True"], .truthy, .fixed "true", .argument 1, []⟩,
    ⟨testifyCall ["False"], .truthy, .fixed "false", .argument 1, []⟩,
    ⟨testifyCall ["Error", "EqualError", "ErrorIs", "ErrorContains", "ErrorAs"], .throws,
      .argument 2, .argument 1, []⟩,
    ⟨testifyCall ["Panics", "PanicsWithValue", "PanicsWithError"], .throws, .fixed "panic",
      .absent, []⟩,
    ⟨testifyCall ["Contains", "Containsf"], .contains, .argument 2, .argument 1, []⟩,
    ⟨testifyCall ["Nil", "NotNil", "NoError", "Empty", "NotEmpty", "Zero", "Len", "Greater",
      "GreaterOrEqual", "Less", "LessOrEqual", "Same", "Regexp", "ElementsMatch", "Subset",
      "NotContains", "NotPanics"], .other, .argument 2, .argument 1, []⟩]

/-- The idioms of the standard library. -/
def plainIdioms : List Idiom :=
  [⟨textStart ++ gap ++ "if" ++ space ++
      opt (word ++ gap ++ ":=" ++ (noneOf ";").star ++ ";" ++ gap) ++ group 1 dot.plusLazy ++
      gap ++ "!=" ++ gap ++ group 2 dot.plusLazy ++ gap ++ "\x7b", .equals, .group 2, .group 1,
      ["nil"]⟩,
    ⟨callOf ["reflect.DeepEqual"], .equals, .argument 1, .argument 0, []⟩]

/-- All idioms. -/
def idioms : List Idiom :=
  testifyIdioms ++ plainIdioms

/-- The framework that imports point to. -/
def framework (content : List Char) : Framework :=
  if containsAny ["github.com/stretchr/testify"] content then .testify
  else if containsAny ["\"testing\""] content then .goTest
  else .unknown

/-- The tests of a text. -/
def tests (code : List (List Char)) : List Located :=
  code.zipIdx.filterMap fun (line, i) =>
    (testStart.find? line).bind fun m =>
      (braceBody? code i 3).map fun span => { name := m.group 1, span }

/-- The parameters of trimmed items, where `carried` is the type of the item behind them. -/
def namedParameters : List (List Char) → List Parameter × List Char
  | [] => ([], [])
  | item :: rest =>
    let (others, carried) := namedParameters rest
    let (name, type) :=
      match cutWhere? isBlank item with
      | some (name, type) => (name, trim type)
      | none => (item, carried)
    (⟨String.ofList name, String.ofList type, none⟩ :: others, type)

/-- The parameters of a list. Without any name the items are types. -/
def parameters (list : List Char) : List Parameter :=
  let items := splitTopLevel list
  if items.any fun item => item.any isBlank then (namedParameters items).1
  else items.map fun item => ⟨"", String.ofList item, none⟩

/-- A signature from the parameter list of a function on. -/
def callOfName (name signature : List Char) : List Char :=
  let before := ((cutAt? name signature).map (·.1)).getD []
  (signature.drop before.length).dropWhile (· != '(')

/-- The result type behind a parameter list. -/
def resultType? (call : List Char) : Option String :=
  (afterArguments? call).bind fun rest =>
    let type := trim (rest.takeWhile (· != '{'))
    if type.isEmpty then none else some (String.ofList type)

/-- The method that begins on a line. -/
def methodAt? (file : Path) (code : List (List Char)) (index : Nat) (line : List Char) :
    Option Method := do
  if isComment (trim line) then none
  let m ← functionStart.find? line
  let signature := (joinSignature code index 10).1
  if containsAny ["*testing."] signature then none
  let span ← braceBody? code index 5
  let name := m.group 2
  let call := callOfName name signature
  some
    { name := String.ofList name
      file
      line := span.first
      endLine := span.last
      parameters := ((balancedArguments? call).map parameters).getD []
      result := if contains name signature then resultType? call else none
      body := String.ofList span.text
      owner := (m.group? 1).map String.ofList }

/-- The methods of a file. -/
def methods (file : Path) (code : List (List Char)) : List Method :=
  code.zipIdx.filterMap fun (line, i) => methodAt? file code i line

/-- The assertions of a body. -/
def assertions (_ : Framework) (body : List Char) (first : Nat) : List Assertion :=
  scanAssertions idioms body first

/-- The reader of Go. -/
def dialect : Dialect :=
  { framework, tests, methods, assertions, parameters }

end Adjudicator.Reader.Go
