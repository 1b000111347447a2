import Adjudicator.Value.Source

/-!
# Outlines of code

An outline lists what a text compares, returns, defines and computes, with the numbers that these
parts stand for. It has the same form however the text was read.
-/

namespace Adjudicator

/-- An equality assertion whose expected side was located. -/
structure Outline.Assertion where
  /-- Name of the matcher or assertion. -/
  matcher : List Char
  /-- Text of the expected side. -/
  expected : Option (List Char)
  /-- Number of the expected side. -/
  value : Option Float
  /-- Line of the file. -/
  line : Nat
deriving Repr

/-- A return statement with an expression. -/
structure Outline.Return where
  /-- Text of the expression. -/
  raw : List Char
  /-- Number of the expression, for a literal or plain arithmetic. -/
  value : Option Float
  /-- Line of the file. -/
  line : Nat
deriving Repr

/-- A name that is given a value. -/
structure Outline.Constant where
  /-- The name. -/
  name : List Char
  /-- Text of the value. -/
  raw : List Char
  /-- Number of the value. -/
  value : Option Float
  /-- Whether the name cannot change. -/
  fixed : Bool
  /-- Line of the file. -/
  line : Nat
deriving Repr

/-- An arithmetic expression. -/
structure Outline.Calculation where
  /-- Text of the expression. -/
  expression : List Char
  /-- Its outermost operator. -/
  operator : List Char
  /-- The names in it. -/
  inputs : List (List Char)
  /-- Line of the file. -/
  line : Nat
deriving Repr

/-- What a text compares, returns, defines and computes. -/
structure Outline where
  /-- Equality assertions. -/
  assertions : List Outline.Assertion := []
  /-- Returned expressions. -/
  returns : List Outline.Return := []
  /-- Names with values. -/
  constants : List Outline.Constant := []
  /-- Arithmetic. -/
  calculations : List Outline.Calculation := []
deriving Repr

namespace Outline

open Text

/-- Whether nothing was found. -/
def isEmpty (o : Outline) : Bool :=
  o.assertions.isEmpty && o.returns.isEmpty && o.constants.isEmpty && o.calculations.isEmpty

/-- The parts of two outlines, one after the other. -/
def append (a b : Outline) : Outline :=
  ⟨a.assertions ++ b.assertions, a.returns ++ b.returns, a.constants ++ b.constants,
    a.calculations ++ b.calculations⟩

instance : Append Outline :=
  ⟨append⟩

/-- The number of an expression that is plain arithmetic or one literal without blanks. -/
def numericValue? (text : List Char) : Option Float :=
  match Value.evaluate? text with
  | some x => some x
  | none =>
    let s := trim text
    if Value.beginsNumber s && !s.any isBlank then Value.readNumeric? text else none

/-- Whether a name of at least two characters consists of capitals, digits and underscores, with
at least one capital. -/
def isScreaming (name : List Char) : Bool :=
  1 < name.length && name.any isAsciiUpper &&
    name.all fun c => isAsciiUpper c || isAsciiDigit c || c == '_'

end Outline

end Adjudicator
