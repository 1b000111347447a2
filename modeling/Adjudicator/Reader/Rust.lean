import Adjudicator.Code.Signature
import Adjudicator.Reader.Basic

/-!
# Reading Rust

Tests are functions below a test attribute; an attribute that expects a panic gives the test an
assertion of its own. Methods belong to the implementation block around them. The assertion macros
write the actual side first.
-/

namespace Adjudicator.Reader.Rust

open Text Code Pattern

/-- A line with a test attribute. -/
def testAttribute : Pattern :=
  textStart ++ gap ++ "#[" ++
    choice ["tokio::test", "async_std::test", "test", "rstest", "test_case"] ++ boundary

/-- A line with the attribute of an expected panic and its message. -/
def panicAttribute : Pattern :=
  textStart ++ gap ++ "#[should_panic" ++
    opt (gap ++ "(" ++ gap ++ "expected" ++ gap ++ "=" ++ gap ++ "\"" ++
      group 1 (noneOf "\"").star ++ "\"" ++ gap ++ ")")

/-- The start of a function. -/
def functionStart : Pattern :=
  textStart ++ gap ++ opt ("pub" ++ opt ("(" ++ (noneOf ")").star ++ ")") ++ space) ++
    opt ("const" ++ space) ++ opt ("async" ++ space) ++ opt ("unsafe" ++ space) ++
    opt ("extern" ++ space ++ "\"" ++ (noneOf "\"").star ++ "\"" ++ space) ++ "fn" ++ space ++
    group 1 word

/-- The start of an implementation block. -/
def blockStart : Pattern :=
  textStart ++ gap ++ "impl" ++ boundary ++ opt ("<" ++ (noneOf "\x7b").starLazy ++ ">") ++ space ++
    opt ((wordOr ":<>, ").plusLazy ++ space ++ "for" ++ space) ++
    opt ((wordOr ":").plus ++ "::") ++ group 1 word

/-- The result type behind a parameter list. -/
def resultPattern : Pattern :=
  "->" ++ gap ++ group 1 dot.plusLazy ++ gap ++
    choice [boundary ++ "where" ++ boundary, "\x7b", ";", textEnd]

/-- A parameter: name and type. -/
def parameterPattern : Pattern :=
  textStart ++ opt ("mut" ++ space) ++ group 1 dot.plusLazy ++ gap ++ ":" ++ gap ++
    group 2 dot.plus ++ textEnd

/-- All idioms. -/
def idioms : List Idiom :=
  [⟨callOf ["assert_eq!"], .equals, .argument 1, .argument 0, []⟩,
    ⟨callOf ["assert_ne!"], .other, .argument 1, .argument 0, []⟩,
    ⟨callOf ["assert!"], .truthy, .fixed "true", .argument 0, []⟩,
    ⟨callOf ["assert_matches!"], .other, .argument 1, .argument 0, []⟩,
    ⟨".unwrap_err" ++ gap ++ "(" ++ gap ++ ")", .throws, .absent, .absent, []⟩]

/-- The framework of a text. -/
def framework (content : List Char) : Framework :=
  if (lines content).any testAttribute.found then .rustTest else .unknown

/-- The function among some lines below a test attribute, past attributes and blank lines, with
the message and line of the expected panic. -/
def functionAmong? (panic : Option (List Char × List Char)) :
    List (List Char × Nat) → Option (Nat × List Char × Option (List Char × List Char))
  | [] => none
  | (line, i) :: rest =>
    match panicAttribute.find? line with
    | some m => functionAmong? (some ((m.group? 1).getD "panic".toList, trim line)) rest
    | none =>
      if "#[".toList.isPrefixOf (trimStart line) || blank line then functionAmong? panic rest
      else (functionStart.find? line).map fun m => (i, m.group 1, panic)

/-- The assertion of an expected panic on a function's line. -/
def panicAssertion (index : Nat) (panic : List Char × List Char) : Assertion :=
  { kind := .throws
    expected := some (String.ofList panic.1)
    actual := none
    line := index + 1
    raw := String.ofList panic.2 }

/-- The test below the attribute on line `index`. -/
def testBelow? (code : List (List Char)) (index : Nat) : Option Located := do
  let (i, name, panic) ← functionAmong? none ((code.zipIdx.drop (index + 1)).take 6)
  let span ← braceBody? code i 5
  some { name, span, leading := (panic.map (panicAssertion i)).toList }

/-- The tests of a text. -/
def tests (code : List (List Char)) : List Located :=
  code.zipIdx.filterMap fun (line, i) =>
    if testAttribute.found line then testBelow? code i else none

/-- Spans and type names of the implementation blocks. -/
def blocks (code : List (List Char)) : List (Span × List Char) :=
  code.zipIdx.filterMap fun (line, i) =>
    (blockStart.find? line).bind fun m => (braceBody? code i 3).map (·, m.group 1)

/-- Whether an item of a parameter list is a receiver. -/
def isReceiver (item : List Char) : Bool :=
  "self".toList.isSuffixOf item && !item.contains ':'

/-- The parameters of a list without the receiver. -/
def parameters (list : List Char) : List Parameter :=
  (splitTopLevel list).filterMap fun item =>
    if isReceiver item then none
    else
      (parameterPattern.find? item).map fun m =>
        { name := String.ofList (m.group 1)
          type := String.ofList (trim (m.group 2))
          fallback := none }

/-- The method that begins on a line. -/
def methodAt? (file : Path) (code : List (List Char)) (types : List (Span × List Char))
    (index : Nat) (line : List Char) : Option Method := do
  if isComment (trim line) then none
  let m ← functionStart.find? line
  let name := m.group 1
  let span ← braceBody? code index 8
  let signature := (joinSignature code index 12).1
  let before := ((cutAt? ("fn ".toList ++ name) signature).map (·.1)).getD []
  let call := (signature.drop before.length).dropWhile (· != '(')
  let result := (afterArguments? call).bind resultPattern.find?
  some
    { name := String.ofList name
      file
      line := span.first
      endLine := span.last
      parameters := ((balancedArguments? call).map parameters).getD []
      result := result.map fun m => String.ofList (m.group 1)
      body := String.ofList span.text
      owner := ownerAt types index }

/-- The methods of a file. -/
def methods (file : Path) (code : List (List Char)) : List Method :=
  let types := blocks code
  code.zipIdx.filterMap fun (line, i) => methodAt? file code types i line

/-- The assertions of a body. -/
def assertions (_ : Framework) (body : List Char) (first : Nat) : List Assertion :=
  scanAssertions idioms body first

/-- The reader of Rust. -/
def dialect : Dialect :=
  { framework, tests, methods, assertions, parameters }

end Adjudicator.Reader.Rust
