import Adjudicator.Number.Dyadic
import Adjudicator.Text.WordChar
import Adjudicator.Text.Lowercase

/-!
# Reading numbers

Decimal notation is read as the nearest double. A number is a sign, digits with at most one point
and at least one digit, and an optional exponent; the words for infinity and for what is not a
number are accepted in any case.
-/

namespace Adjudicator.Number

open Text

/-- The value of a digit below a base of at most sixteen. -/
def digitValue? (base : Nat) (c : Char) : Option Nat :=
  let value :=
    if isAsciiDigit c then some (c.toNat - 48)
    else if 'a' ≤ c ∧ c ≤ 'f' then some (c.toNat - 87)
    else if 'A' ≤ c ∧ c ≤ 'F' then some (c.toNat - 55)
    else none
  value.filter (· < base)

/-- The value of digits in a base, the highest first. -/
def digitsValue? (base : Nat) (s : List Char) : Option Nat :=
  s.foldl (fun n c => do some (base * (← n) + (← digitValue? base c))) (some 0)

/-- The value of decimal digits. -/
def digitsValue (s : List Char) : Nat :=
  s.foldl (fun n c => 10 * n + (c.toNat - 48)) 0

/-- The double nearest to `digits · 10 ^ exponent`. -/
def ofDecimal (digits : Nat) (exponent : Int) : Float :=
  if digits = 0 then 0.0
  else
    let size := ((Nat.log2 digits : Int) * 30103) / 100000 + exponent
    if 400 < size then 1.0 / 0.0
    else if size < -400 then 0.0
    else Float.ofScientific digits (exponent < 0) exponent.natAbs

/-- A number split at its digits: before the point, behind it, and the power of ten written. -/
structure Numeral where
  /-- Digits before the point. -/
  whole : List Char
  /-- Digits behind the point. -/
  fraction : List Char
  /-- The power of ten. -/
  power : Int
deriving DecidableEq, Repr

/-- The double nearest to a numeral. -/
def Numeral.value (n : Numeral) : Float :=
  ofDecimal (digitsValue (n.whole ++ n.fraction)) (n.power - n.fraction.length)

/-- Whole number with an optional sign, from at least one digit. -/
def readInt? (s : List Char) : Option Int :=
  let (negative, digits) :=
    match s with
    | '-' :: rest => (true, rest)
    | '+' :: rest => (false, rest)
    | _ => (false, s)
  if digits.isEmpty || !digits.all isAsciiDigit then none
  else
    let n : Int := digitsValue digits
    some (if negative then -n else n)

/-- Digits alone, at least one. -/
def readNat? (s : List Char) : Option Nat :=
  if s.isEmpty || !s.all isAsciiDigit then none else some (digitsValue s)

/-- Digits with at most one point, at least one digit, and an optional exponent. -/
def readNumeral? (s : List Char) : Option Numeral :=
  let whole := s.takeWhile isAsciiDigit
  let afterWhole := s.dropWhile isAsciiDigit
  let (fraction, afterFraction) :=
    match afterWhole with
    | '.' :: rest => (rest.takeWhile isAsciiDigit, rest.dropWhile isAsciiDigit)
    | _ => ([], afterWhole)
  if whole.isEmpty && fraction.isEmpty then none
  else
    match afterFraction with
    | [] => some ⟨whole, fraction, 0⟩
    | c :: rest =>
      if c = 'e' ∨ c = 'E' then (readInt? rest).map fun power => ⟨whole, fraction, power⟩
      else none

/-- The double that a text denotes. -/
def readFloat? (s : List Char) : Option Float :=
  let (negative, body) :=
    match s with
    | '-' :: rest => (true, rest)
    | '+' :: rest => (false, rest)
    | _ => (false, s)
  let size :=
    if foldEq body "inf".toList || foldEq body "infinity".toList then some (1.0 / 0.0)
    else if foldEq body "nan".toList then some (0.0 / 0.0)
    else (readNumeral? body).map Numeral.value
  size.map fun x => if negative then -x else x

end Adjudicator.Number
