/-!
# Patterns

A pattern is tried at a cursor and offers the cursors behind the texts it accepts, in order of
preference: an alternative before the ones after it, a longer repetition before a shorter one
when the repetition is greedy and after it when it is lazy. `run` hands the offers to a
continuation one by one and stops at the first one that the continuation accepts. Every
iteration of a repetition has to consume a character, so each run ends.
-/

namespace Adjudicator

/-- A place in a text, with the groups recorded on the way there. -/
structure Cursor where
  /-- The character just before this place. -/
  prev : Option Char
  /-- The characters from this place on. -/
  rest : List Char
  /-- The number of characters before this place. -/
  index : Nat
  /-- Recorded groups with their first place and the place behind them, newest first. -/
  marks : List (Nat × Nat × Nat)
deriving DecidableEq, Repr

/-- A pattern of texts. -/
inductive Pattern where
  /-- The empty text. -/
  | here
  /-- One character of a class. -/
  | one (accepts : Char → Bool)
  /-- The empty text at a place with the right neighbours. -/
  | look (holds : Option Char → List Char → Bool)
  /-- One pattern after the other. -/
  | seq (first second : Pattern)
  /-- The first pattern, or else the second. -/
  | either (first second : Pattern)
  /-- Any number of iterations, as many as possible first when `greedy`. -/
  | many (greedy : Bool) (body : Pattern)
  /-- The text of `body`, recorded as group `number`. -/
  | group (number : Nat) (body : Pattern)

namespace Cursor

/-- The cursor at the start of a text. -/
def start (s : List Char) : Cursor :=
  ⟨none, s, 0, []⟩

/-- Moves over one character of a class. -/
def step? (accepts : Char → Bool) (c : Cursor) : Option Cursor :=
  match c.rest with
  | [] => none
  | x :: rest => if accepts x then some ⟨some x, rest, c.index + 1, c.marks⟩ else none

/-- Records a group that began at the place `start`. -/
def mark (number start : Nat) (c : Cursor) : Cursor :=
  { c with marks := (number, start, c.index) :: c.marks }

end Cursor

namespace Pattern

variable {β : Type}

/-- Iterates `body`, at most `fuel` times, before or after trying the continuation alone. -/
def iterate (greedy : Bool) (body : Cursor → (Cursor → Option β) → Option β)
    (next : Cursor → Option β) : Nat → Cursor → Option β
  | 0, c => next c
  | fuel + 1, c =>
    if greedy then
      match body c fun d => if c.index < d.index then iterate greedy body next fuel d else none with
      | some answer => some answer
      | none => next c
    else
      match next c with
      | some answer => some answer
      | none =>
        body c fun d => if c.index < d.index then iterate greedy body next fuel d else none

/-- Tries a pattern at a cursor: the answer of the first offer that `next` accepts. -/
def run : Pattern → Cursor → (Cursor → Option β) → Option β
  | .here, c, next => next c
  | .one accepts, c, next =>
    match c.step? accepts with
    | some d => next d
    | none => none
  | .look holds, c, next => if holds c.prev c.rest then next c else none
  | .seq first second, c, next => first.run c fun d => second.run d next
  | .either first second, c, next =>
    match first.run c next with
    | some answer => some answer
    | none => second.run c next
  | .many greedy body, c, next => iterate greedy body.run next c.rest.length c
  | .group number body, c, next => body.run c fun d => next (d.mark number c.index)

end Pattern

end Adjudicator
