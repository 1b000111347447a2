import Adjudicator.Outline.Basic
import Adjudicator.Outline.Python.Statements
import Adjudicator.Text.Lines

/-!
# Outlines of Python

What a syntax tree of Python compares, returns, defines and computes. The indentation that all
lines share is taken off first, so that a method can be read outside its class. A text with faults
is read as far as its tree goes.
-/

namespace Adjudicator.Outline.Python

open Text

/-- The number of bytes of blanks at the start of a line. -/
def blankBytes (line : List Char) : Nat :=
  byteLength (line.takeWhile isBlank)

/-- The smallest of several numbers, and zero when there are none. -/
def smallest : List Nat → Nat
  | [] => 0
  | n :: rest => rest.foldl min n

/-- A text without the indentation that its lines share. -/
def dedent (text : List Char) : List Char :=
  let all := lines text
  let shared := smallest ((all.filter fun line => !blank line).map blankBytes)
  joinLines (all.map fun line => (dropBytes? shared line).getD (trimStart line))

/-- The methods that compare for equality. -/
def equalityMethods : List String :=
  ["assertEqual", "assertEquals", "assertAlmostEqual"]

/-- The arithmetic operators. -/
def arithmetic : List String :=
  ["+", "-", "*", "/", "//", "%", "**"]

/-- The assertion that a statement makes by a single comparison for equality. -/
def statement? (source : List Char) (first : Nat) (t : Tree) : Option Assertion := do
  let comparison ← t.firstNamed?
  guard (comparison.form = .comparison)
  let (operators, operands) := comparison.children.partition fun c => c.form = .operator
  match operators, operands with
  | [operator], [_, right] =>
    guard (operator.text source = ['=', '='])
    let expected := right.text source
    some
      { matcher := ['=', '='], expected := some expected,
        value := Value.readNumeric? expected, line := t.line first }
  | _, _ => none

/-- The assertion that a call makes; its second argument without a name is the expected one. -/
def call? (source : List Char) (first : Nat) (t : Tree) : Option Assertion := do
  let function ← t.child? .function
  guard (function.form = .member)
  let matcher := (← function.child? .property).text source
  guard (equalityMethods.contains (String.ofList matcher))
  let arguments ← t.child? .arguments
  let plain := arguments.children.filter fun a => a.form != .namedArgument && a.form != .comment
  let expected := plain[1]?.map (Tree.text source)
  some { matcher, expected, value := expected.bind Value.readNumeric?, line := t.line first }

/-- The definition by an assignment to a name or an attribute. -/
def constant? (source : List Char) (first : Nat) (t : Tree) : Option Constant := do
  let left ← t.child? .name
  guard (left.form = .identifier ∨ left.form = .member)
  let raw := (← t.child? .value).text source
  let name := left.text source
  some
    { name, raw, value := numericValue? raw
      fixed := isScreaming (afterLast (· == '.') name), line := t.line first }

/-- The calculation by an operator that is no operand of another operator. -/
def calculation? (source : List Char) (first : Nat) (above : Option Tree) (t : Tree) :
    Option Calculation := do
  guard (above.all fun a => a.form != .binary)
  let operator := (← t.child? .operator).text source
  guard (arithmetic.contains (String.ofList operator))
  some
    { expression := t.text source
      operator
      inputs := distinct (t.leaves (fun f => f = .identifier ∨ f = .member) source)
      line := t.line first }

/-- What one node gives. -/
def read (source : List Char) (first : Nat) (above : Option Tree) (t : Tree) : Outline :=
  match t.form with
  | .asserting => { assertions := (statement? source first t).toList }
  | .call => { assertions := (call? source first t).toList }
  | .returning =>
    let returned := t.firstNamed?.map fun e =>
      let raw := e.text source
      { raw, value := numericValue? raw, line := t.line first : Return }
    { returns := returned.toList }
  | .assignment => { constants := (constant? source first t).toList }
  | .binary => { calculations := (calculation? source first above t).toList }
  | _ => {}

/-- The outline of a text whose first line has the given number. -/
def outline? (parse : List Char → Option Parsed) (text : List Char) (first : Nat) :
    Option Outline := do
  let source := dedent text
  let p ← parse source
  p.found? (p.root.collect (read source first) none)

end Adjudicator.Outline.Python
