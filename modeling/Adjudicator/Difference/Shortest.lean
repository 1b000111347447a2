/-!
# Shortest differences

Two lists are compared by taking items out of the first and putting items of the second in, as few
as possible. Among several ways with the same number of changes the one is taken that is found by
searching from both ends at once: two fronts grow, one change a round, until they meet, and both
halves are compared in the same way.

A diagonal is a difference between a place in the first list and a place in the second.
-/

namespace Adjudicator.Difference

variable {α : Type} [DecidableEq α]

/-- Number of items that two lists have in common at their start. -/
def sharedStart : List α → List α → Nat
  | a :: as, b :: bs => if a = b then sharedStart as bs + 1 else 0
  | _, _ => 0

/-- How far the first list is reached on each diagonal. -/
abbrev Front :=
  List (Int × Nat)

/-- How far a diagonal is reached with one more change than the front has, where a diagonal that is
not on the front was not reached. -/
def reach (a b : List α) (front : Front) (diagonal : Int) : Nat :=
  let x :=
    match front.lookup (diagonal - 1), front.lookup (diagonal + 1) with
    | some below, some above => if above ≤ below then below + 1 else above
    | some below, none => below + 1
    | none, above => above.getD 0
  x + sharedStart (a.drop x) (b.drop (x - diagonal).toNat)

/-- The front after so many changes, highest diagonal first. -/
def advance (a b : List α) (front : Front) (changes : Nat) : Front :=
  let diagonals := (List.range (changes + 1)).map fun (i : Nat) => (changes : Int) - 2 * i
  let inside := diagonals.filter fun d => -(b.length : Int) ≤ d && d ≤ a.length
  inside.map fun d => (d, reach a b front d)

/-- The first place of a front where it meets the front from the other end of two lists of the given
lengths. -/
def meeting? (firstLength secondLength : Nat) (own other : Front) : Option (Nat × Nat) :=
  own.findSome? fun (d, x) =>
    (other.lookup ((firstLength : Int) - secondLength - d)).bind fun y =>
      if firstLength ≤ x + y then some (x, (x - d).toNat) else none

/-- The place where the fronts from both ends of two lists meet. The bound is the greatest number of
rounds. -/
def crossing (a b : List α) (forward backward : Front) (changes : Nat) : Nat → Nat × Nat
  | 0 => (a.length, 0)
  | bound + 1 =>
    let forward := advance a b forward changes
    match meeting? a.length b.length forward backward with
    | some place => place
    | none =>
      let backward := advance a.reverse b.reverse backward changes
      match meeting? a.length b.length backward.reverse forward with
      | some (x, y) => (a.length - x, b.length - y)
      | none => crossing a b forward backward (changes + 1) bound

/-- The front before any change. -/
def start : Front :=
  [(0, 0)]

/-- Which items of two lists are kept. The bound is the greatest depth of the search. -/
def keptWithin : Nat → List α → List α → List Bool × List Bool
  | 0, a, b => (a.map fun _ => false, b.map fun _ => false)
  | bound + 1, a, b =>
    let first := sharedStart a b
    let a := a.drop first
    let b := b.drop first
    let last := sharedStart a.reverse b.reverse
    let a := a.take (a.length - last)
    let b := b.take (b.length - last)
    let (inA, inB) :=
      if a.isEmpty || b.isEmpty then (a.map fun _ => false, b.map fun _ => false)
      else
        let (x, y) := crossing a b start start 1 (a.length + b.length)
        let (lowA, lowB) := keptWithin bound (a.take x) (b.take y)
        let (highA, highB) := keptWithin bound (a.drop x) (b.drop y)
        (lowA ++ highA, lowB ++ highB)
    let around (inner : List Bool) : List Bool :=
      List.replicate first true ++ inner ++ List.replicate last true
    (around inA, around inB)

/-- Marks of some items of a list, put back among the others. -/
def spread (isMarked : α → Bool) : List α → List Bool → List Bool
  | [], _ => []
  | a :: as, marks =>
    if isMarked a then marks.headD false :: spread isMarked as marks.tail
    else false :: spread isMarked as marks

/-- Which items of two lists are kept. An item that the other list lacks is never kept. -/
def kept (a b : List α) : List Bool × List Bool :=
  let inB (x : α) : Bool := b.contains x
  let inA (x : α) : Bool := a.contains x
  let (marksA, marksB) := keptWithin (a.length + b.length + 1) (a.filter inB) (b.filter inA)
  (spread inB a marksA, spread inA b marksB)

end Adjudicator.Difference
