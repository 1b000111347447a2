import Adjudicator.Number.Reading
import Adjudicator.Text.Blank
import Adjudicator.Text.Search

/-!
# Arithmetic in source text

A text of at most a hundred bytes that holds only digits, blanks, points, parentheses and the four
operators is evaluated: products before sums, from left to right, with signs in front of any
factor. A text that is no expression, a division by zero and a result that is not finite have no
value.
-/

namespace Adjudicator.Value

open Text

/-- Values closer than this are the same number. -/
def tolerance : Float :=
  0.001

/-- Whether two values are the same number. -/
def near (a b : Float) : Bool :=
  Number.abs (a - b) < tolerance

/-- The longest text that is evaluated, in bytes. -/
def maxLength : Nat :=
  100

/-- The characters of expressions. -/
def isExpressionChar (c : Char) : Bool :=
  isDigit c || isBlank c || c == '+' || c == '-' || c == '*' || c == '/' || c == '(' ||
    c == ')' || c == '.'

/-- Whether every parenthesis is closed and none closes before it is opened, where `depth` are
open. -/
def balancedFrom (depth : Nat) : List Char → Bool
  | [] => depth == 0
  | c :: rest =>
    if c = '(' then balancedFrom (depth + 1) rest
    else if c = ')' then
      match depth with
      | 0 => false
      | depth + 1 => balancedFrom depth rest
    else balancedFrom depth rest

/-- A character of a number. -/
def isNumberChar (c : Char) : Bool :=
  isAsciiDigit c || c == '.'

/-- A number and what follows it. -/
def number? (s : List Char) : Option (Float × List Char) :=
  (Number.readFloat? (s.takeWhile isNumberChar)).map (·, s.dropWhile isNumberChar)

mutual

/-- A sum and what follows it. -/
def sum? : Nat → List Char → Option (Float × List Char)
  | 0, _ => none
  | fuel + 1, s =>
    match product? fuel s with
    | some (x, rest) => sumFrom? fuel x rest
    | none => none

/-- The terms added to `x`, and what follows them. -/
def sumFrom? : Nat → Float → List Char → Option (Float × List Char)
  | 0, _, _ => none
  | fuel + 1, x, s =>
    match s.dropWhile isAsciiBlank with
    | '+' :: rest =>
      match product? fuel rest with
      | some (y, rest) => sumFrom? fuel (x + y) rest
      | none => none
    | '-' :: rest =>
      match product? fuel rest with
      | some (y, rest) => sumFrom? fuel (x - y) rest
      | none => none
    | rest => some (x, rest)

/-- A product and what follows it. -/
def product? : Nat → List Char → Option (Float × List Char)
  | 0, _ => none
  | fuel + 1, s =>
    match factor? fuel s with
    | some (x, rest) => productFrom? fuel x rest
    | none => none

/-- The factors multiplied to `x`, and what follows them. -/
def productFrom? : Nat → Float → List Char → Option (Float × List Char)
  | 0, _, _ => none
  | fuel + 1, x, s =>
    match s.dropWhile isAsciiBlank with
    | '*' :: rest =>
      match factor? fuel rest with
      | some (y, rest) => productFrom? fuel (x * y) rest
      | none => none
    | '/' :: rest =>
      match factor? fuel rest with
      | some (y, rest) => if y == 0.0 then none else productFrom? fuel (x / y) rest
      | none => none
    | rest => some (x, rest)

/-- A factor and what follows it. -/
def factor? : Nat → List Char → Option (Float × List Char)
  | 0, _ => none
  | fuel + 1, s =>
    match s.dropWhile isAsciiBlank with
    | '-' :: rest =>
      match factor? fuel rest with
      | some (x, rest) => some (-x, rest)
      | none => none
    | '+' :: rest => factor? fuel rest
    | '(' :: rest =>
      match sum? fuel rest with
      | some (x, rest) =>
        match rest.dropWhile isAsciiBlank with
        | ')' :: rest => some (x, rest)
        | _ => none
      | none => none
    | rest => number? rest

end

/-- The value of an expression. -/
def evaluate? (text : List Char) : Option Float :=
  let s := trim text
  if s.isEmpty || maxLength < byteLength s || !s.all isExpressionChar || !balancedFrom 0 s then
    none
  else
    match sum? (5 * s.length + 5) s with
    | some (x, rest) =>
      if (rest.dropWhile isAsciiBlank).isEmpty && Number.isFinite x then some x else none
    | none => none

end Adjudicator.Value
