import Adjudicator.Number.Reading
import Adjudicator.Number.Written

/-!
# Instants

An instant is a number of seconds since the start of 1970, in universal time, with a number of
nanoseconds behind them. Dates follow the Gregorian calendar into the past and the future. A year
has at least four digits, and a sign when it is negative or has more. A leap second belongs to the
second before it.
-/

namespace Adjudicator

/-- A moment, counted from the start of 1970. -/
structure Instant where
  /-- The whole seconds. -/
  seconds : Int
  /-- The nanoseconds behind them, from a thousand million on in a leap second. -/
  nanoseconds : Nat := 0
deriving DecidableEq, Repr, Inhabited

namespace Instant

open Number

/-- A day of the calendar. -/
structure Date where
  /-- Year. -/
  year : Int
  /-- Month from 1 to 12. -/
  month : Nat
  /-- Day of the month. -/
  day : Nat
deriving DecidableEq, Repr

/-- Seconds of a day. -/
def daySeconds : Int :=
  86400

/-- The day that lies `days` behind the first day of 1970. The calendar repeats every 400 years;
years are counted from March so that a leap day is the last day of its year. -/
def Date.ofDays (days : Int) : Date :=
  let shifted := days + 719468
  let era := shifted.fdiv 146097
  let inEra := (shifted - era * 146097).toNat
  let yearOfEra := (inEra - inEra / 1460 + inEra / 36524 - inEra / 146096) / 365
  let dayOfYear := inEra - (365 * yearOfEra + yearOfEra / 4 - yearOfEra / 100)
  let index := (5 * dayOfYear + 2) / 153
  let month := if index < 10 then index + 3 else index - 9
  { year := era * 400 + yearOfEra + (if month ≤ 2 then 1 else 0)
    month
    day := dayOfYear - (153 * index + 2) / 5 + 1 }

/-- Days from the first day of 1970 to a day. -/
def Date.toDays (d : Date) : Int :=
  let year := if d.month ≤ 2 then d.year - 1 else d.year
  let era := year.fdiv 400
  let yearOfEra := (year - era * 400).toNat
  let index := if d.month ≤ 2 then d.month + 9 else d.month - 3
  let dayOfYear := (153 * index + 2) / 5 + d.day - 1
  let inEra := yearOfEra * 365 + yearOfEra / 4 - yearOfEra / 100 + dayOfYear
  era * 146097 + inEra - 719468

/-- The day of an instant. -/
def date (t : Instant) : Date :=
  Date.ofDays (t.seconds.fdiv daySeconds)

/-- Years for which instants exist. -/
def hasYear (year : Int) : Bool :=
  -262143 ≤ year && year ≤ 262142

/-- The start of 1970. -/
def epoch : Instant :=
  { seconds := 0 }

/-- An instant whose year can be written. -/
def inCalendar? (t : Instant) : Option Instant :=
  if hasYear t.date.year then some t else none

/-- The instant of some seconds, when its year can be written. -/
def ofSeconds? (seconds : Int) : Option Instant :=
  inCalendar? { seconds }

/-- The instant that many seconds from the start of 1970; the start itself when it lies outside
the calendar. -/
def ofSeconds (seconds : Int) : Instant :=
  (ofSeconds? seconds).getD epoch

/-- Two digits. -/
def two (n : Nat) : List Char :=
  padZeros 2 (natChars n)

/-- A year with at least four digits. -/
def yearText (year : Int) : List Char :=
  let digits := padZeros 4 (natChars year.natAbs)
  if year < 0 then '-' :: digits else if 9999 < year then '+' :: digits else digits

/-- The day of an instant as a text. -/
def dayText (t : Instant) : List Char :=
  let d := t.date
  yearText d.year ++ '-' :: two d.month ++ '-' :: two d.day

/-- Nanoseconds of a second. -/
def secondNanoseconds : Nat :=
  1000000000

/-- A fraction of a second as a text: none, or three, six or nine digits. -/
def fractionText (nanoseconds : Nat) : List Char :=
  if nanoseconds = 0 then []
  else if nanoseconds % 1000000 = 0 then '.' :: padZeros 3 (natChars (nanoseconds / 1000000))
  else if nanoseconds % 1000 = 0 then '.' :: padZeros 6 (natChars (nanoseconds / 1000))
  else '.' :: padZeros 9 (natChars nanoseconds)

/-- Date and time of an instant as a text. -/
def text (t : Instant) : List Char :=
  let second := (t.seconds - t.seconds.fdiv daySeconds * daySeconds).toNat
  t.dayText ++ 'T' :: two (second / 3600) ++ ':' :: two (second / 60 % 60) ++
    ':' :: two (second % 60 + t.nanoseconds / secondNanoseconds) ++
    fractionText (t.nanoseconds % secondNanoseconds) ++ ['Z']

/-- Distance of a zone from universal time in seconds. -/
def zone? : List Char → Option Int
  | ['Z'] | ['z'] => some 0
  | sign :: h₁ :: h₂ :: ':' :: m₁ :: m₂ :: [] => do
    let hours ← readNat? [h₁, h₂]
    let minutes ← readNat? [m₁, m₂]
    let distance : Int := hours * 3600 + minutes * 60
    if sign = '+' then some distance else if sign = '-' then some (-distance) else none
  | _ => none

/-- The nanoseconds of a fraction of a second, and what stands behind it. Digits behind the ninth
say nothing. -/
def fraction? : List Char → Option (Nat × List Char)
  | '.' :: rest => do
    let digits := (rest.takeWhile Text.isAsciiDigit).take 9
    let n ← readNat? digits
    some (n * Nat.pow 10 (9 - digits.length), rest.dropWhile Text.isAsciiDigit)
  | s => some (0, s)

/-- The instant that a text of date, time and zone names. -/
def ofText? (s : List Char) : Option Instant := do
  let negative := s.head? == some '-'
  let unsigned := if negative || s.head? == some '+' then s.drop 1 else s
  let size ← readNat? (unsigned.takeWhile Text.isAsciiDigit)
  match unsigned.dropWhile Text.isAsciiDigit with
  | '-' :: o₁ :: o₂ :: '-' :: d₁ :: d₂ :: t :: h₁ :: h₂ :: ':' :: m₁ :: m₂ :: ':' :: s₁ :: s₂ ::
      rest =>
    guard (t = 'T' ∨ t = 't' ∨ t = ' ')
    let month ← readNat? [o₁, o₂]
    let day ← readNat? [d₁, d₂]
    let hour ← readNat? [h₁, h₂]
    let minute ← readNat? [m₁, m₂]
    let second ← readNat? [s₁, s₂]
    let (fraction, rest) ← fraction? rest
    let shift ← zone? rest
    let d : Date := ⟨if negative then -size else size, month, day⟩
    guard (Date.ofDays d.toDays = d ∧ hour < 24 ∧ minute < 60 ∧ second ≤ 60)
    let whole := hour * 3600 + minute * 60 + min second 59
    inCalendar?
      { seconds := d.toDays * daySeconds + whole - shift
        nanoseconds := if second = 60 then secondNanoseconds + fraction else fraction }
  | _ => none

instance : LT Instant :=
  ⟨fun a b => a.seconds < b.seconds ∨ a.seconds = b.seconds ∧ a.nanoseconds < b.nanoseconds⟩

instance : LE Instant :=
  ⟨fun a b => a.seconds < b.seconds ∨ a.seconds = b.seconds ∧ a.nanoseconds ≤ b.nanoseconds⟩

/-- One instant is before another by its seconds, or by its nanoseconds within the same second. -/
theorem lt_iff {a b : Instant} : a < b ↔
    a.seconds < b.seconds ∨ a.seconds = b.seconds ∧ a.nanoseconds < b.nanoseconds :=
  Iff.rfl

/-- One instant is not after another by its seconds, or by its nanoseconds within the same
second. -/
theorem le_iff {a b : Instant} : a ≤ b ↔
    a.seconds < b.seconds ∨ a.seconds = b.seconds ∧ a.nanoseconds ≤ b.nanoseconds :=
  Iff.rfl

instance (a b : Instant) : Decidable (a < b) :=
  decidable_of_iff' _ lt_iff

instance (a b : Instant) : Decidable (a ≤ b) :=
  decidable_of_iff' _ le_iff

end Instant

end Adjudicator
