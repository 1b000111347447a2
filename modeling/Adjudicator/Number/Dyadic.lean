/-!
# Doubles as dyadic numbers

A finite double is a sign, a mantissa and a power of two. The exact operations below read a
double through this form, so that rounding to an integer and printing work on whole numbers.
-/

namespace Adjudicator.Number

/-- The number `± mantissa · 2 ^ exponent`. -/
structure Dyadic where
  /-- Whether the sign bit is set. -/
  negative : Bool
  /-- The digits, as a whole number. -/
  mantissa : Nat
  /-- The power of two. -/
  exponent : Int
deriving DecidableEq, Repr

/-- The parts of a finite double; nothing for infinities and for what is not a number. -/
def dyadic? (x : Float) : Option Dyadic :=
  let bits := x.toBits.toNat
  let negative := bits / Nat.pow 2 63 == 1
  let biased : Nat := bits / Nat.pow 2 52 % Nat.pow 2 11
  let fraction := bits % Nat.pow 2 52
  if biased = 2047 then none
  else if biased = 0 then some ⟨negative, fraction, -1074⟩
  else some ⟨negative, fraction + Nat.pow 2 52, Int.ofNat biased - 1075⟩

/-- How a quotient half-way between two whole numbers is rounded. -/
inductive Tie where
  /-- Away from zero. -/
  | away
  /-- To the even neighbour. -/
  | even
deriving DecidableEq, Repr

/-- The whole number nearest to `num / den`. -/
def roundDiv (tie : Tie) (num den : Nat) : Nat :=
  let quotient := num / den
  let twice := 2 * (num % den)
  if twice < den then quotient
  else if den < twice then quotient + 1
  else
    match tie with
    | .away => quotient + 1
    | .even => if quotient % 2 = 0 then quotient else quotient + 1

namespace Dyadic

/-- The power of two as a numerator. -/
def scaleUp (d : Dyadic) : Nat :=
  Nat.pow 2 d.exponent.toNat

/-- The power of two as a denominator. -/
def scaleDown (d : Dyadic) : Nat :=
  Nat.pow 2 (-d.exponent).toNat

/-- A magnitude with the sign of `d`. -/
def signed (d : Dyadic) (magnitude : Nat) : Int :=
  if d.negative then -(magnitude : Int) else magnitude

/-- The integer part. -/
def truncate (d : Dyadic) : Int :=
  d.signed (d.mantissa * d.scaleUp / d.scaleDown)

/-- The nearest integer; a half goes away from zero. -/
def round (d : Dyadic) : Int :=
  d.signed (roundDiv .away (d.mantissa * d.scaleUp) d.scaleDown)

end Dyadic

/-- The double nearest to an integer. -/
def ofInt (n : Int) : Float :=
  match n with
  | .ofNat m => Float.ofScientific m false 0
  | .negSucc m => -Float.ofScientific (m + 1) false 0

/-- The sign bit of a double. -/
def isNegative (x : Float) : Bool :=
  x.toBits.toNat / Nat.pow 2 63 == 1

/-- Whether a double is finite. -/
def isFinite (x : Float) : Bool :=
  (dyadic? x).isSome

/-- Whether a double is not a number. -/
def isNaN (x : Float) : Bool :=
  x != x

/-- The nearest whole double; a half goes away from zero. Signs, infinities and what is not a
number stay. -/
def round (x : Float) : Float :=
  match dyadic? x with
  | none => x
  | some d =>
    let n := d.round
    if n = 0 then if d.negative then -0.0 else 0.0 else ofInt n

/-- The integer part of a double, cut to the interval from `low` to `high`; zero for what is not
a number. -/
def truncateWithin (low high : Int) (x : Float) : Int :=
  match dyadic? x with
  | some d => max low (min high d.truncate)
  | none => if isNaN x then 0 else if isNegative x then low else high

/-- The integer part among the signed 64-bit integers. -/
def toSigned64 (x : Float) : Int :=
  truncateWithin (-(Nat.pow 2 63 : Int)) (Nat.pow 2 63 - 1) x

/-- The integer part among the unsigned 64-bit integers. -/
def toUnsigned64 (x : Float) : Nat :=
  (truncateWithin 0 (Nat.pow 2 64 - 1) x).toNat

/-- The whole number that the double nearest to a natural number denotes; a tie goes to the even
one. -/
def nearestDouble (n : Nat) : Nat :=
  if n < Nat.pow 2 53 then n
  else
    let unit := Nat.pow 2 (Nat.log2 n - 52)
    roundDiv .even n unit * unit

/-- The size of a double without its sign. -/
def abs (x : Float) : Float :=
  if isNegative x then -x else x

/-- Whether a double has no fractional part. -/
def isWhole (x : Float) : Bool :=
  match dyadic? x with
  | some d => d.mantissa * d.scaleUp % d.scaleDown = 0
  | none => false

end Adjudicator.Number
