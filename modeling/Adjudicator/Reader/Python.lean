import Adjudicator.Code.Signature
import Adjudicator.Reader.Basic

/-!
# Reading Python

Tests are functions whose name starts with `test`. Names between double underscores are no
methods. The idioms are plain assert statements and the calls of unittest and pytest; the
expected side of a plain comparison is the right one.
-/

namespace Adjudicator.Reader.Python

open Text Code Pattern

/-- The start of a function. -/
def functionStart : Pattern :=
  textStart ++ gap ++ opt ("async" ++ space) ++ "def" ++ space ++ group 1 word ++ gap ++ "("

/-- The start of a class. -/
def classStart : Pattern :=
  textStart ++ gap ++ "class" ++ space ++ group 1 word

/-- The annotated result type at the end of a signature. -/
def resultArrow : Pattern :=
  ")" ++ gap ++ "->" ++ gap ++ group 1 dot.plusLazy ++ gap ++ ":" ++ gap ++ textEnd

/-- A parameter: stars, name, type and default value. -/
def parameterPattern : Pattern :=
  textStart ++ atMost 2 "*" ++ group 1 word ++ gap ++ opt (":" ++ gap ++ group 2 dot.plusLazy) ++
    gap ++ opt ("=" ++ gap ++ group 3 dot.plus) ++ textEnd

/-- The beginning of an assert statement and its first operand. -/
def assertOperand : Pattern :=
  textStart ++ gap ++ "assert" ++ space ++ group 1 dot.plusLazy

/-- The message of an assert statement, where there is one, and the end of the line. -/
def messageAndEnd : Pattern :=
  opt (gap ++ "," ++ gap ++ dot.plus) ++ textEnd

/-- The idioms of the assert statement. -/
def statementIdioms : List Idiom :=
  [⟨assertOperand ++ gap ++ "==" ++ gap ++ group 2 dot.plusLazy ++ messageAndEnd, .equals,
      .group 2, .group 1, []⟩,
    ⟨assertOperand ++ gap ++ "!=" ++ gap ++ group 2 dot.plusLazy ++ messageAndEnd, .other,
      .group 2, .group 1, []⟩,
    ⟨assertOperand ++ space ++ "is" ++ space ++ group 2 (choice ["True", "False"]) ++ boundary,
      .truthy, .group 2, .group 1, []⟩,
    ⟨assertOperand ++ space ++ "is" ++ space ++ opt ("not" ++ space) ++ "None" ++ boundary,
      .other, .fixed "None", .group 1, []⟩,
    ⟨assertOperand ++ space ++ "in" ++ space ++ group 2 dot.plusLazy ++ messageAndEnd, .contains,
      .group 1, .group 2, [" not in "]⟩,
    ⟨assertOperand ++ space ++ "not" ++ space ++ "in" ++ space ++ group 2 dot.plus ++ textEnd,
      .other, .group 1, .group 2, []⟩,
    ⟨assertOperand ++ messageAndEnd, .truthy, .fixed "True", .group 1,
      ["==", "!=", " is ", " in "]⟩]

/-- A call of one of unittest's assertions. -/
def selfCall (names : List Pattern) : Pattern :=
  boundary ++ "self.assert" ++ choice names ++ gap ++ "("

/-- The idioms of unittest and pytest. -/
def callIdioms : List Idiom :=
  [⟨selfCall ["Equal", "Equals", "AlmostEqual"], .equals, .argument 1, .argument 0, []⟩,
    ⟨selfCall ["NotEqual", "NotAlmostEqual"], .other, .argument 1, .argument 0, []⟩,
    ⟨selfCall ["True"], .truthy, .fixed "True", .argument 0, []⟩,
    ⟨selfCall ["False"], .truthy, .fixed "False", .argument 0, []⟩,
    ⟨selfCall ["In"], .contains, .argument 0, .argument 1, []⟩,
    ⟨selfCall ["Raises" ++ opt "Regex"], .throws, .argument 0, .absent, []⟩,
    ⟨selfCall ["IsNone"], .other, .fixed "None", .argument 0, []⟩,
    ⟨selfCall ["NotIn", "IsNotNone", "Greater", "GreaterEqual", "Less", "LessEqual",
      "IsInstance", "Is", "IsNot", "Regex", "CountEqual", "DictEqual", "ListEqual"], .other,
      .argument 1, .argument 0, []⟩,
    ⟨callOf ["pytest.raises"], .throws, .argument 0, .absent, []⟩]

/-- All idioms. -/
def idioms : List Idiom :=
  statementIdioms ++ callIdioms

/-- The framework that imports point to. -/
def framework (content : List Char) : Framework :=
  if containsAny ["import pytest", "from pytest", "@pytest."] content then .pytest
  else if containsAny ["import unittest", "from unittest"] content then .unittest
  else if containsAny ["def test"] content then .pytest
  else .unknown

/-- The name of the function that begins on a line. -/
def functionName? (line : List Char) : Option (List Char) :=
  (functionStart.find? line).map fun m => m.group 1

/-- The tests of a text. -/
def tests (code : List (List Char)) : List Located :=
  code.zipIdx.filterMap fun (line, i) =>
    (functionName? line).bind fun name =>
      if "test".toList.isPrefixOf name then
        (indentBody? code i).map fun span => { name, span }
      else none

/-- The parameters of a list, without receivers and separators. A parameter without a type has
any type. -/
def parameters (list : List Char) : List Parameter :=
  (splitTopLevel list).filterMap fun item =>
    if ["self", "cls", "*", "/"].contains (String.ofList item) then none
    else
      (parameterPattern.find? item).map fun m =>
        { name := String.ofList (m.group 1)
          type := ((m.group? 2).map String.ofList).getD "Any"
          fallback := (m.group? 3).map fun v => String.ofList (trim v) }

/-- The class whose body holds the definition on line `index`: the nearest line above that is
indented less has to begin a class. -/
def ownerOf? (code : List (List Char)) (index : Nat) (line : List Char) : Option String :=
  let indent := indentOf line
  if indent = 0 then none
  else
    let outer := (code.take index).reverse.find? fun above =>
      !blank above && !isComment (trim above) && indentOf above < indent &&
        (trimStart above).head? != some '@'
    (outer.bind classStart.find?).map fun m => String.ofList (m.group 1)

/-- Whether a name stands between double underscores. -/
def isSpecialName (name : List Char) : Bool :=
  ['_', '_'].isPrefixOf name && ['_', '_'].isSuffixOf name

/-- The method that begins on a line. -/
def methodAt? (file : Path) (code : List (List Char)) (index : Nat) (line : List Char) :
    Option Method := do
  let name ← functionName? line
  if isSpecialName name then none
  let span ← indentBody? code index
  let signature := (joinSignature code index 20).1
  let list := balancedArguments? (signature.dropWhile (· != '('))
  some
    { name := String.ofList name
      file
      line := span.first
      endLine := span.last
      parameters := (list.map parameters).getD []
      result := (resultArrow.find? signature).map fun m => String.ofList (m.group 1)
      body := String.ofList span.text
      owner := ownerOf? code index line }

/-- The methods of a file. -/
def methods (file : Path) (code : List (List Char)) : List Method :=
  code.zipIdx.filterMap fun (line, i) => methodAt? file code i line

/-- The assertions of a body. -/
def assertions (_ : Framework) (body : List Char) (first : Nat) : List Assertion :=
  scanAssertions idioms body first

/-- The reader of Python. -/
def dialect : Dialect :=
  { framework, tests, methods, assertions, parameters }

end Adjudicator.Reader.Python
