import Adjudicator.Code.Literal
import Adjudicator.Number.Written
import Adjudicator.Pattern.Build
import Adjudicator.Pattern.Search
import Adjudicator.Value.Expression

/-!
# Numbers in source text

The value of an assertion or of a returned expression is read from a literal with an optional type
suffix, from plain arithmetic, or from a text with exactly one literal in it. A line's literals
are those outside quotes that neither follow nor belong to a word.
-/

namespace Adjudicator.Value

open Text Pattern

/-- The suffixes that give a literal its type. -/
def typeSuffix : Pattern :=
  opt "_" ++
    choice ["f32", "f64", "i8", "i16", "i32", "i64", "u8", "u16", "u32", "u64", "usize", "isize",
      anyOf "fFdDmMlL"]

/-- A whole text that is one literal with an optional suffix. -/
def suffixedLiteral : Pattern :=
  textStart ++
    group 1
      (opt (anyOf "+-") ++
        choice [digit.plus ++ opt "." ++ digit.star, "." ++ digit.plus] ++
        opt (anyOf "eE" ++ opt (anyOf "+-") ++ digit.plus)) ++
    opt typeSuffix ++ textEnd

/-- The first argument of an approximate comparison. -/
def approximation : Pattern :=
  boundary ++ "approx" ++ gap ++ "(" ++ gap ++ group 1 (noneOf ",)").plus

/-- A literal in a line, which does not follow a word or a point. -/
def literalPattern : Pattern :=
  freshStart ++ group 1 (opt "-" ++ decimal) ++ boundary

/-- The letters that end a literal. -/
def isSuffixLetter (c : Char) : Bool :=
  "fFdDmMlL".toList.contains c

/-- The number that a text stands for. -/
def readNumeric? (text : List Char) : Option Float :=
  let s := trim text
  if s.isEmpty then none
  else
    let inner := ((approximation.find? s).map fun m => trim (m.group 1)).getD s
    let compact := inner.filter (· != '_')
    let bare := if 1 < byteLength compact then dropEndWhile isSuffixLetter compact else compact
    match suffixedLiteral.find? compact with
    | some m => Number.readFloat? (m.group 1)
    | none =>
      match evaluate? bare with
      | some x => some x
      | none =>
        match literalPattern.findAll inner with
        | [m] => Number.readFloat? (m.group 1)
        | _ => none

/-- The literals of a line of code. -/
def literals (line : List Char) : List Float :=
  (literalPattern.findAll (Code.stripLiterals line)).filterMap fun m =>
    Number.readFloat? (m.group 1)

/-- A number as reports show it: at most four decimals, and none for a whole number. -/
def shown (x : Float) : List Char :=
  let rounded := Number.round (x * 10000.0) / 10000.0
  if Number.isWhole rounded then Number.intChars (Number.toSigned64 rounded)
  else Number.plain rounded

end Adjudicator.Value
