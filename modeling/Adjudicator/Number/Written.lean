import Adjudicator.Number.Shortest

/-!
# Written numbers

Three ways to write a double: positional with the shortest digits, with a fixed number of places,
and as a number of a data document, which has a point or an exponent. Texts of infinities and of
what is not a number belong to the positional form.
-/

namespace Adjudicator.Number

/-- The digits of a whole number. -/
def natChars (n : Nat) : List Char :=
  (Nat.repr n).toList

/-- The digits of an integer. -/
def intChars (n : Int) : List Char :=
  match n with
  | .ofNat m => natChars m
  | .negSucc m => '-' :: natChars (m + 1)

/-- Zeros in front of a text, up to a width. -/
def padZeros (width : Nat) (s : List Char) : List Char :=
  List.replicate (width - s.length) '0' ++ s

/-- Digits with a point `places` before their end; no point for no places. -/
def withPoint (places : Nat) (digits : List Char) : List Char :=
  if places = 0 then digits
  else
    let padded := padZeros (places + 1) digits
    let cut := padded.length - places
    padded.take cut ++ '.' :: padded.drop cut

/-- A minus sign where there is one. -/
def withSign (negative : Bool) (s : List Char) : List Char :=
  if negative then '-' :: s else s

namespace Decimal

/-- Positional form without an exponent. -/
def positional (d : Decimal) : List Char :=
  let digits := natChars d.digits
  if 0 ≤ d.exponent then
    withSign d.negative
      (if d.digits = 0 then ['0'] else digits ++ List.replicate d.exponent.toNat '0')
  else withSign d.negative (withPoint (-d.exponent).toNat digits)

/-- The form of data documents: positional with a point when the number of digits before the
point is from -4 to 16, else one digit before the point and an exponent. -/
def document (d : Decimal) : List Char :=
  let digits := natChars d.digits
  let before := (digits.length : Int) + d.exponent
  if d.digits = 0 then withSign d.negative ['0', '.', '0']
  else if 0 ≤ d.exponent ∧ before ≤ 16 then
    withSign d.negative (digits ++ List.replicate d.exponent.toNat '0' ++ ['.', '0'])
  else if d.exponent < 0 ∧ -5 < before ∧ before ≤ 16 then d.positional
  else
    let lead :=
      match digits with
      | [] => []
      | [c] => [c]
      | c :: rest => c :: '.' :: rest
    let power := before - 1
    withSign d.negative
      (lead ++ 'e' :: (if power < 0 then intChars power else '+' :: intChars power))

end Decimal

/-- Texts of the doubles that are not finite. -/
def specialText (x : Float) : List Char :=
  if isNaN x then "NaN".toList else if isNegative x then "-inf".toList else "inf".toList

/-- A double with its shortest digits in positional form; a tie goes away from zero. -/
def plain (x : Float) : List Char :=
  match dyadic? x with
  | some d => (d.shortest .away).positional
  | none => specialText x

/-- A double with exactly `places` digits after the point; a tie goes to the even digit. -/
def fixed (places : Nat) (x : Float) : List Char :=
  match dyadic? x with
  | some d =>
    let scaled := roundDiv .even (d.mantissa * d.scaleUp * Nat.pow 10 places) d.scaleDown
    withSign d.negative (withPoint places (natChars scaled))
  | none => specialText x

/-- A double as a number of a data document, which has no form for what is not finite; a tie goes
to the even digit. -/
def document? (x : Float) : Option (List Char) :=
  (dyadic? x).map fun d => (d.shortest .even).document

end Adjudicator.Number
