import Adjudicator.Outline.Script.Token

/-!
# Symbols of scripts

The symbols of the grammar that refer to one another, and what a dialect of the grammar is: with
or without types.
-/

namespace Adjudicator.Outline.Script

/-- A symbol of the grammar. -/
inductive Symbol where
  /-- A statement. -/
  | statement
  /-- Statements in braces. -/
  | block
  /-- Expressions with commas between them. -/
  | expressions
  /-- One expression. -/
  | expression
  /-- An operand of the operators of at least a level. -/
  | operand (level : Nat)
  /-- An expression with its unary operators. -/
  | unary
  /-- What a `new` constructs. -/
  | construction
  /-- An element of a page. -/
  | element
  /-- A type. -/
  | type
deriving DecidableEq, Repr

/-- The parsers of the symbols, and whether the text has types. -/
structure Grammar where
  /-- Whether there are types. -/
  typed : Bool
  /-- The parser of each symbol. -/
  parse : Symbol → Parse Tree

end Adjudicator.Outline.Script
