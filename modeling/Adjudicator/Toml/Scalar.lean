import Adjudicator.Number.Reading
import Adjudicator.Text.Search
import Adjudicator.Toml.Basic

/-!
# Numbers, truth values and dates

A value without quotes and brackets. Underscores may stand between digits. A whole number may be
written in another base; one that needs more than 128 bits is refused, and so is a number with a
point or an exponent that is too large for a double.
-/

namespace Adjudicator.Toml

open Text Number

/-- Digits of a base with single underscores between them, without the underscores. -/
def grouped? (base : Nat) (s : List Char) : Option (List Char) :=
  let groups := splitWhere (· == '_') s
  if groups.all fun g => !g.isEmpty && g.all fun c => (digitValue? base c).isSome then
    some groups.flatten
  else none

/-- Decimal digits that begin with a zero only when they are alone. -/
def plainDigits? (s : List Char) : Option (List Char) :=
  (grouped? 10 s).filter fun digits => digits.head? != some '0' || digits.length == 1

/-- A sign at the start: whether it is a minus, and the rest. -/
def splitSign : List Char → Bool × List Char
  | '-' :: rest => (true, rest)
  | '+' :: rest => (false, rest)
  | s => (false, s)

/-- Whether a whole number fits 128 bits. -/
def fits (n : Int) : Bool :=
  -(Nat.pow 2 127 : Int) ≤ n && n < (Nat.pow 2 128 : Int)

/-- The size of a whole number without a sign. -/
def size? : List Char → Option Nat
  | '0' :: 'x' :: digits => (grouped? 16 digits).bind (digitsValue? 16)
  | '0' :: 'o' :: digits => (grouped? 8 digits).bind (digitsValue? 8)
  | '0' :: 'b' :: digits => (grouped? 2 digits).bind (digitsValue? 2)
  | digits => (plainDigits? digits).bind (digitsValue? 10)

/-- A whole number; only decimal ones may have a sign. -/
def whole? (s : List Char) : Option Toml := do
  let (negative, digits) := splitSign s
  let size ← if digits.length = s.length then size? digits
    else (plainDigits? digits).bind (digitsValue? 10)
  let n : Int := if negative then -size else size
  if fits n then some (.whole n) else none

/-- The letter of an exponent. -/
def isExponent (c : Char) : Bool :=
  c == 'e' || c == 'E'

/-- The digits behind the point of a number, which are empty when there is no point, and the
rest. -/
def splitFraction? (s : List Char) : Option (List Char × List Char) :=
  match s with
  | '.' :: rest =>
    (grouped? 10 (rest.takeWhile fun c => !isExponent c)).map
      (·, rest.dropWhile fun c => !isExponent c)
  | _ => some ([], s)

/-- The power of ten of a number; zero when there is none. -/
def power? : List Char → Option Int
  | [] => some 0
  | letter :: rest => do
    guard (isExponent letter)
    let (negative, digits) := splitSign rest
    let size ← (grouped? 10 digits).bind (digitsValue? 10)
    let n : Int := size
    some (if negative then -n else n)

/-- A double, which has a point or an exponent or is one of two words. -/
def double? (s : List Char) : Option Toml := do
  let (negative, body) := splitSign s
  let signed (x : Float) : Toml := .double (if negative then -x else x)
  if body = "inf".toList then some (signed (1.0 / 0.0))
  else if body = "nan".toList then some (signed (0.0 / 0.0))
  else
    let inWhole (c : Char) : Bool := isAsciiDigit c || c == '_'
    let tail := body.dropWhile inWhole
    guard !tail.isEmpty
    let digits ← plainDigits? (body.takeWhile inWhole)
    let (fraction, rest) ← splitFraction? tail
    let power ← power? rest
    let x := Numeral.value ⟨digits, fraction, power⟩
    if isFinite x then some (signed x) else none

/-- Two digits as a number below a limit, and the rest. -/
def twoBelow? (limit : Nat) (s : List Char) : Option (Nat × List Char) := do
  guard (2 ≤ s.length)
  let n ← readNat? (s.take 2)
  guard (n < limit)
  some (n, s.drop 2)

/-- Drops a given character. -/
def drop? (c : Char) : List Char → Option (List Char)
  | x :: rest => if x = c then some rest else none
  | [] => none

/-- Days of a month. -/
def daysOf (year month : Nat) : Nat :=
  if month = 2 then
    if year % 4 = 0 ∧ (year % 100 ≠ 0 ∨ year % 400 = 0) then 29 else 28
  else if month = 4 ∨ month = 6 ∨ month = 9 ∨ month = 11 then 30
  else 31

/-- Drops a date. -/
def dropDate? (s : List Char) : Option (List Char) := do
  guard (4 ≤ s.length)
  let year ← readNat? (s.take 4)
  let (month, s) ← twoBelow? 13 (← drop? '-' (s.drop 4))
  let (day, s) ← twoBelow? 32 (← drop? '-' s)
  guard (0 < month ∧ 0 < day ∧ day ≤ daysOf year month)
  some s

/-- Drops the fraction of a second. -/
def dropDecimals? (s : List Char) : Option (List Char) :=
  match s with
  | '.' :: rest =>
    if (rest.takeWhile isAsciiDigit).isEmpty then none else some (rest.dropWhile isAsciiDigit)
  | _ => some s

/-- Drops a time. -/
def dropTime? (s : List Char) : Option (List Char) := do
  let (_, s) ← twoBelow? 24 s
  let (_, s) ← twoBelow? 60 (← drop? ':' s)
  match s with
  | ':' :: s =>
    let (_, s) ← twoBelow? 61 s
    dropDecimals? s
  | _ => some s

/-- Whether a text is empty or the distance of a zone. -/
def isZone : List Char → Bool
  | [] | ['Z'] | ['z'] => true
  | sign :: s =>
    (sign == '+' || sign == '-') &&
      (do
        let (_, s) ← twoBelow? 24 s
        let (_, s) ← twoBelow? 60 (← drop? ':' s)
        some s) == some []

/-- Whether a text is a date, a time, or both with or without a zone. -/
def isMoment (s : List Char) : Bool :=
  match dropDate? s with
  | some [] => true
  | some (c :: rest) => (c == 'T' || c == 't' || c == ' ') && (dropTime? rest).any isZone
  | none => dropTime? s == some []

/-- A value without quotes and brackets. -/
def scalar? (s : List Char) : Option Toml :=
  if s = "true".toList then some (.truth true)
  else if s = "false".toList then some (.truth false)
  else if isMoment s then some (.moment (String.ofList s))
  else
    match whole? s with
    | some v => some v
    | none => double? s

end Adjudicator.Toml
