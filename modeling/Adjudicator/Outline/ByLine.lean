import Adjudicator.Outline.Basic
import Adjudicator.Reader.Source

/-!
# Outlines line by line

The outline of a text whose grammar is not known, from patterns of single lines. Assertions are
those that the language's reader finds, so both read the expected side from the same place.
-/

namespace Adjudicator.Outline.ByLine

open Text Code Pattern

/-- The words that may precede a definition. -/
def modifier : Pattern :=
  choice ["public", "private", "protected", "internal", "static", "final", "const", "readonly",
    "let", "var", "val", "pub" ++ opt "(crate)"]

/-- A letter of ASCII or an underscore. -/
def nameStart : Pattern :=
  one fun c => isAsciiLetter c || c == '_'

/-- A definition: modifiers, type, name and value. -/
def definition : Pattern :=
  textStart ++ gap ++ group 1 ((modifier ++ space).star) ++
    opt ((wordOr "<>[],.?").plus ++ space) ++ group 2 (nameStart ++ wordChar.star) ++ gap ++
    opt (":" ++ gap ++ (wordOr "<>[]&").plus ++ gap) ++ opt ":" ++ "=" ++ gap ++
    group 3 (noneOf "=;" ++ (noneOf ";").starLazy) ++ gap ++ opt ";" ++ gap ++ textEnd

/-- An arithmetic operator between two operands. -/
def arithmetic : Pattern :=
  choice [nameStart ++ (wordOr ".").star, decimal, ")"] ++ gap ++ group 2 (anyOf "-+*/%") ++ gap ++
    choice [one fun c => isAsciiLetter c || c == '_' || c == '(', digit]

/-- A name. -/
def namePattern : Pattern :=
  boundary ++ nameStart ++ wordChar.star ++ boundary

/-- Modifiers after which a name cannot change. -/
def fixingModifiers : List String :=
  ["final", "const", "readonly"]

/-- Words that are no variables. -/
def keywords : List String :=
  ["return", "new", "this", "self", "true", "false", "null", "nil", "None", "var", "let", "const"]

/-- The variables of an expression, each once and without members. -/
def inputsOf (expression : List Char) : List (List Char) :=
  (namePattern.findAll expression).foldl
    (fun seen m =>
      let name := m.text
      if m.before.getLast? = some '.' || keywords.contains (String.ofList name) ||
        seen.contains name then seen
      else seen ++ [name]) []

/-- The framework whose idioms a language has when the text names none. -/
def usualFramework : Language → Framework
  | .java => .junit5
  | .typescript => .jest
  | .javascript => .jest
  | .python => .pytest
  | .go => .goTest
  | .rust => .rustTest
  | .csharp => .nunit

/-- The framework of a text. -/
def frameworkOf (language : Language) (text : List Char) : Framework :=
  match language.dialect.framework text with
  | .unknown => usualFramework language
  | framework => framework

/-- The equality assertions of a text. -/
def assertions (language : Language) (text : List Char) (first : Nat) :
    List Outline.Assertion :=
  (language.dialect.assertions (frameworkOf language text) text first).filterMap fun a =>
    if a.kind = .equals then
      some
        { matcher := trim (a.raw.toList.takeWhile (· != '('))
          expected := a.expected.map String.toList
          value := a.expected.bind fun e => Value.readNumeric? e.toList
          line := a.line }
    else none

/-- The definition on a stripped line. -/
def constant? (stripped : List Char) (number : Nat) : Option Constant :=
  (definition.find? stripped).map fun m =>
    let name := m.group 2
    let raw := trim (m.group 3)
    let fixed := (wordsWhere isBlank (m.group 1)).any fun w =>
      fixingModifiers.contains (String.ofList w)
    { name, raw, value := numericValue? raw, fixed := fixed || isScreaming name, line := number }

/-- What one line returns, defines and computes. -/
def ofLine (line : List Char) (number : Nat) : Outline :=
  let trimmed := trim line
  if trimmed.isEmpty || isComment trimmed then {}
  else
    let stripped := stripLiterals line
    let returned := (Value.returnPattern.find? stripped).map fun m => m.group 1
    let returns := returned.map fun e =>
      { raw := trim e, value := numericValue? (trim e), line := number : Return }
    let constants := if returned.isSome then none else constant? stripped number
    let calculations := (arithmetic.find? stripped).map fun m =>
      let expression := returned.getD (dropEndWhile (· == ';') (trim stripped))
      { expression, operator := m.group 2, inputs := inputsOf expression, line := number
        : Calculation }
    { returns := returns.toList, constants := constants.toList,
      calculations := calculations.toList }

/-- The outline of a text whose first line has the given number. -/
def outline (language : Language) (text : List Char) (first : Nat) : Outline :=
  ((lines text).zipIdx first).foldl (fun o (line, number) => o ++ ofLine line number)
    { assertions := assertions language text first }

end Adjudicator.Outline.ByLine
