import Adjudicator.Number.Dyadic

/-!
# Shortest decimals

Every finite double has an interval of reals that are rounded to it. The shortest decimal is the
one with the fewest digits in that interval, and of those with the same number of digits the one
nearest to the double; the caller says where a tie goes. The search tries 1, 2, … 17 digits and
tests the two neighbours of the double on each decimal grid in whole-number arithmetic.
-/

namespace Adjudicator.Number

/-- The number `± digits · 10 ^ exponent`. -/
structure Decimal where
  /-- Whether a minus sign is written. -/
  negative : Bool
  /-- The digits, as a whole number. -/
  digits : Nat
  /-- The power of ten. -/
  exponent : Int
deriving DecidableEq, Repr

/-- The interval of a double in quarters of the last place of its mantissa: lower end, the double
itself, upper end, and whether the ends belong to the interval. -/
structure Interval where
  /-- Lower end in quarters. -/
  low : Nat
  /-- The double in quarters. -/
  mid : Nat
  /-- Upper end in quarters. -/
  high : Nat
  /-- Whether the ends are rounded to the double too. -/
  closed : Bool
deriving DecidableEq, Repr

/-- The interval of a double; below a power of two the neighbour is half as far away. -/
def Dyadic.interval (d : Dyadic) : Interval :=
  let quarters := 4 * d.mantissa
  let low := if d.mantissa = Nat.pow 2 52 ∧ d.exponent ≠ -1074 then quarters - 1 else quarters - 2
  ⟨low, quarters, quarters + 2, d.mantissa % 2 = 0⟩

/-- Whether `digits / den` lies between the ends, all in units of `1 / num`. -/
def Interval.holds (i : Interval) (num den digits : Nat) : Bool :=
  let value := digits * den
  if i.closed then i.low * num ≤ value && value ≤ i.high * num
  else i.low * num < value && value < i.high * num

/-- The best decimal with exponent `place`, if a neighbour on that grid lies in the interval. -/
def Dyadic.onGrid? (tie : Tie) (d : Dyadic) (place : Int) : Option Nat :=
  let i := d.interval
  let power := d.exponent - 2
  let num := Nat.pow 2 power.toNat * Nat.pow 10 (-place).toNat
  let den := Nat.pow 2 (-power).toNat * Nat.pow 10 place.toNat
  let below := i.mid * num / den
  let above := below + 1
  match i.holds num den below, i.holds num den above with
  | false, false => none
  | true, false => some below
  | false, true => some above
  | true, true => some (roundDiv tie (i.mid * num) den)

/-- The number of decimal digits of `n`, at most `fuel`. -/
def digitCount : Nat → Nat → Nat
  | 0, _ => 0
  | fuel + 1, n => if n < 10 then 1 else digitCount fuel (n / 10) + 1

/-- The power of ten of the leading digit of a positive number. -/
def Dyadic.leadingPlace (d : Dyadic) : Int :=
  let num := d.mantissa * d.scaleUp
  let den := d.scaleDown
  let whole := num / den
  if whole = 0 then
    let inverse := den / num
    let places := digitCount 400 inverse
    if num * Nat.pow 10 (places - 1) < den then -(places : Int) else 1 - (places : Int)
  else (digitCount 400 whole : Int) - 1

/-- The decimal on the first grid from `place` downward that has a hit. -/
def Dyadic.searchGrid (tie : Tie) (d : Dyadic) : Nat → Int → Decimal
  | 0, place => ⟨d.negative, (d.onGrid? tie place).getD 0, place⟩
  | fuel + 1, place =>
    match d.onGrid? tie place with
    | some digits => ⟨d.negative, digits, place⟩
    | none => d.searchGrid tie fuel (place - 1)

/-- The shortest decimal of a finite double. -/
def Dyadic.shortest (tie : Tie) (d : Dyadic) : Decimal :=
  if d.mantissa = 0 then ⟨d.negative, 0, 0⟩ else d.searchGrid tie 18 (d.leadingPlace + 1)

end Adjudicator.Number
