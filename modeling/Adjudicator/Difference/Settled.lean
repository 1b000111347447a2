import Adjudicator.Difference.Shortest

/-!
# Settled differences

A run of changed items can slide past a kept item that equals the item at its far end, and runs that
come together become one. A run is settled where it lies opposite changes in the other list, and
else as far down as it can slide; of several places opposite changes it takes the last.
-/

namespace Adjudicator.Difference

variable {α : Type} [DecidableEq α]

/-- The changed items between two kept ones. -/
structure Gap (α : Type) where
  /-- The changed items. -/
  items : List α
  /-- Whether the other list has changed items at this place. -/
  faced : Bool
deriving Repr

/-- The gaps of a list, seen from one of them. -/
structure View (α : Type) where
  /-- The gaps above with the kept items behind them, nearest first. -/
  above : List (Gap α × α)
  /-- The gap itself. -/
  here : Gap α
  /-- The gaps below with the kept items before them, nearest first. -/
  below : List (α × Gap α)
deriving Repr

namespace View

/-- The view after the gap's items have slid up past one kept item. -/
def up? (v : View α) : Option (View α) :=
  match v.above with
  | (gap, item) :: above =>
    if v.here.items.getLast? = some item then
      some
        { above, here := { gap with items := gap.items ++ item :: v.here.items.dropLast }
          below := (item, { v.here with items := [] }) :: v.below }
    else none
  | [] => none

/-- The view after the gap's items have slid down past one kept item. -/
def down? (v : View α) : Option (View α) :=
  match v.below, v.here.items with
  | (item, gap) :: below, first :: rest =>
    if first = item then
      some
        { above := ({ v.here with items := [] }, item) :: v.above
          here := { gap with items := rest ++ item :: gap.items }, below }
    else none
  | _, _ => none

/-- The view after as many steps as can be made, at most so many. -/
def furthest (step : View α → Option (View α)) : Nat → View α → View α
  | 0, v => v
  | n + 1, v =>
    match step v with
    | some next => furthest step n next
    | none => v

/-- The gap's items as far down as they can slide, after they have come together with all that they
can reach. -/
def gathered : Nat → View α → View α
  | 0, v => v
  | bound + 1, v =>
    let top := furthest up? v.above.length v
    let bottom := furthest down? top.below.length top
    if bottom.here.items.length = v.here.items.length then bottom else gathered bound bottom

/-- The lowest place opposite changes that items can slide up to, within so many steps. -/
def lastFaced? : Nat → View α → Option (View α)
  | 0, v => if v.here.faced then some v else none
  | n + 1, v => if v.here.faced then some v else v.up?.bind (lastFaced? n)

/-- The gap's items where they are settled. -/
def settled (v : View α) : View α :=
  let bottom := gathered (v.above.length + v.below.length + 1) v
  (lastFaced? bottom.above.length bottom).getD bottom

/-- All gaps settled from here on, at most so many. -/
def settleAll : Nat → View α → View α
  | 0, v => v
  | bound + 1, v =>
    let v := if v.here.items.isEmpty then v else v.settled
    match v.below with
    | [] => v
    | (item, gap) :: below =>
      settleAll bound { above := (v.here, item) :: v.above, here := gap, below }

/-- All gaps of a view, from the first to the last. -/
def gaps (v : View α) : List (List α) :=
  v.above.reverse.map (fun g => g.1.items) ++ v.here.items :: v.below.map fun g => g.2.items

end View

/-- The changed items before the first kept one, and the kept ones with the changed items behind
each. -/
def split : List α → List Bool → List α × List (α × List α)
  | a :: as, keep :: marks =>
    let (first, rest) := split as marks
    if keep then ([], (a, first) :: rest) else (a :: first, rest)
  | as, _ => (as, [])

/-- The numbers of changed items before, between and behind kept ones. -/
def sizes (items : List α) (marks : List Bool) : List Nat :=
  let (first, rest) := split items marks
  first.length :: rest.map fun p => p.2.length

/-- The numbers of changed items in a list after it is settled, given those of the other list. -/
def settledSizes (items : List α) (marks : List Bool) (other : List Nat) : List Nat :=
  let (first, rest) := split items marks
  let faced := other.map (· != 0)
  let view : View α :=
    { above := [], here := ⟨first, faced.headD false⟩
      below := (rest.zip faced.tail).map fun ((item, changed), f) => (item, ⟨changed, f⟩) }
  let bound := (rest.length + 1) * (rest.length + 1)
  (view.settleAll bound).gaps.map List.length

/-- The places of kept items, given the numbers of changed items around them, from a first place. -/
def places (first : Nat) : List Nat → List Nat
  | [] | [_] => []
  | size :: rest => (first + size) :: places (first + size + 1) rest

/-- The places of the kept items of two lists, in pairs. -/
def pairs (a b : List α) : List (Nat × Nat) :=
  let (marksA, marksB) := kept a b
  let sizesA := settledSizes a marksA (sizes b marksB)
  let sizesB := settledSizes b marksB sizesA
  (places 0 sizesA).zip (places 0 sizesB)

/-- What two lists have in common. -/
structure Common where
  /-- The length of the first list. -/
  firstLength : Nat
  /-- The length of the second list. -/
  secondLength : Nat
  /-- The places of the kept items in both lists. -/
  places : List (Nat × Nat)
deriving DecidableEq, Repr

/-- What two lists have in common. -/
def common (a b : List α) : Common :=
  ⟨a.length, b.length, pairs a b⟩

/-- The place in the first list of what is kept at a place of the second. Places behind the end of
the second list belong to those behind the end of the first. -/
def Common.placeBefore? (c : Common) (place : Nat) : Option Nat :=
  if c.secondLength ≤ place then some (c.firstLength + (place - c.secondLength))
  else (c.places.find? fun p => p.2 == place).map Prod.fst

end Adjudicator.Difference
