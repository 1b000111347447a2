import Adjudicator.Json.Basic

/-!
# Repeating what failed

How often a request is repeated and how long to wait before each repetition. Waiting times have the
precision of doubles and a bound. The doublings of a time are counted in 32 bits with a sign, and a
time that is doubled more than a thousand times counts as unbounded.
-/

namespace Adjudicator

open Json

/-- How waiting times grow. -/
inductive Backoff where
  /-- All are equal. -/
  | constant
  /-- Each is longer by the first. -/
  | linear
  /-- Each is twice the one before. -/
  | exponential
deriving DecidableEq, Repr, Inhabited

namespace Backoff

/-- All ways to grow. -/
def all : List Backoff :=
  [constant, linear, exponential]

/-- The name in settings. -/
def name : Backoff → String
  | constant => "constant"
  | linear => "linear"
  | exponential => "exponential"

end Backoff

/-- How requests are repeated. Times are in milliseconds. -/
structure Retry where
  /-- Number of attempts, the first included. -/
  attempts : Nat := 3
  /-- The first waiting time. -/
  base : Nat := 1000
  /-- How waiting times grow. -/
  backoff : Backoff := .exponential
  /-- Bound of all waiting times. -/
  bound : Nat := 30000
deriving DecidableEq, Repr, Inhabited

namespace Retry

/-- Doublings up to the given repetition, counted from one, in 32 bits with a sign. -/
def doublings (attempt : Nat) : Int :=
  Int.bmod (attempt - 1 : Nat) (Nat.pow 2 32)

/-- Doublings that no double can hold. -/
def tooManyDoublings : Int :=
  1024

/-- A time that is doubled, or halved when the number is negative; nothing when it is unbounded. -/
def doubled? (time : Nat) (times : Int) : Option Nat :=
  if times < 0 then some (time >>> times.natAbs)
  else if tooManyDoublings ≤ times then none
  else some (time * Nat.pow 2 times.toNat)

/-- The waiting time before a repetition, counted from one, without its bound. -/
def growing? (r : Retry) (attempt : Nat) : Option Nat :=
  let base := Number.nearestDouble r.base
  match r.backoff with
  | .constant => some base
  | .linear => some (Number.nearestDouble (base * attempt))
  | .exponential => doubled? base (doublings attempt)

/-- The longest time that can be waited. -/
def longest : Nat :=
  Nat.pow 2 64 - 1

/-- The waiting time before a repetition, counted from one. -/
def delay (r : Retry) (attempt : Nat) : Nat :=
  let bound := min longest (Number.nearestDouble r.bound)
  match r.growing? attempt with
  | some time => min time bound
  | none => bound

/-- Whether another attempt is allowed after some. -/
def allows (r : Retry) (made : Nat) : Bool :=
  made < r.attempts

end Retry

/-- The record of how requests are repeated. -/
def Retry.toJson (r : Retry) : Json :=
  obj [("max_attempts", nat r.attempts), ("base_delay_ms", nat r.base),
    ("strategy", str r.backoff.name), ("max_delay_ms", nat r.bound)]

/-- How requests are repeated by a record; what is absent has its own value. -/
def Retry.ofJson? (j : Json) : Option Retry := do
  let own : Retry := {}
  some
    { attempts := ← j.fieldOr? "max_attempts" own.attempts nat?
      base := ← j.fieldOr? "base_delay_ms" own.base nat?
      backoff := ← j.fieldOr? "strategy" own.backoff (named? Backoff.all Backoff.name)
      bound := ← j.fieldOr? "max_delay_ms" own.bound nat? }

end Adjudicator
