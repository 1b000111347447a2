/-!
# Queues by rank

A queue gives back the item of the highest rank first. It is a binary tree in an array in which no
item comes before the one above it; among items of equal rank the shape of the tree decides.
-/

namespace Adjudicator

/-- A queue, the next item first. -/
structure Queue (α : Type) where
  /-- The items; those at `2 * i + 1` and `2 * i + 2` stand below the one at `i`. -/
  items : Array α := #[]
deriving Repr, Inhabited

namespace Queue

variable {α : Type}

/-- Whether the item at one place comes strictly before the one at another. -/
def isBefore (before : α → α → Bool) (items : Array α) (i j : Nat) : Bool :=
  match items[i]?, items[j]? with
  | some a, some b => before a b
  | _, _ => false

/-- The items after the one at a place has risen past all that it comes before. -/
def rise (before : α → α → Bool) (items : Array α) (i : Nat) : Array α :=
  if h : i = 0 then items
  else
    let above := (i - 1) / 2
    if isBefore before items i above then rise before (items.swapIfInBounds i above) above
    else items
termination_by i
decreasing_by omega

/-- The place of the first of the two items below a place. -/
def firstBelow (before : α → α → Bool) (items : Array α) (i : Nat) : Nat :=
  if isBefore before items (2 * i + 2) (2 * i + 1) then 2 * i + 2 else 2 * i + 1

/-- The items after the one at a place has sunk below all that come before it, in at most so many
steps. -/
def sink (before : α → α → Bool) : Nat → Array α → Nat → Array α
  | 0, items, _ => items
  | bound + 1, items, i =>
    let below := firstBelow before items i
    if isBefore before items below i then sink before bound (items.swapIfInBounds i below) below
    else items

/-- The queue with another item. -/
def push (before : α → α → Bool) (q : Queue α) (item : α) : Queue α :=
  ⟨rise before (q.items.push item) q.items.size⟩

/-- The next item and the queue without it. -/
def pop? (before : α → α → Bool) (q : Queue α) : Option (α × Queue α) :=
  match q.items[0]?, q.items.back? with
  | some next, some last =>
    let rest := q.items.pop.setIfInBounds 0 last
    some (next, ⟨sink before rest.size rest 0⟩)
  | _, _ => none

/-- All items in the order in which they leave the queue, at most so many. -/
def drain (before : α → α → Bool) : Nat → Queue α → List α
  | 0, _ => []
  | bound + 1, q =>
    match q.pop? before with
    | some (next, rest) => next :: drain before bound rest
    | none => []

/-- Items in the order in which they leave a queue that they entered one after the other. -/
def sorted (before : α → α → Bool) (items : List α) : List α :=
  drain before items.length (items.foldl (push before) {})

end Queue

end Adjudicator
