import Adjudicator.Outline.Tree

/-!
# Parsers

A parser reads from a place in a text and gives a result with the place behind it, or nothing. A
choice goes back to the place where it began. A grammar is one function from its symbols to
parsers that refers to itself through an argument; `knot` closes it with a bound on the depth.
-/

namespace Adjudicator.Outline

/-- A place in a text. -/
structure Place where
  /-- The characters from here on. -/
  rest : List Char
  /-- Characters before this place. -/
  offset : Nat
  /-- Line feeds before this place. -/
  row : Nat
deriving DecidableEq, Repr

/-- Reads from a place. -/
abbrev Parse (α : Type) :=
  StateT Place Option α

namespace Parse

variable {α β : Type}

/-- Moves over one character. -/
def step (p : Place) : Place :=
  match p.rest with
  | [] => p
  | c :: rest => ⟨rest, p.offset + 1, if c = '\n' then p.row + 1 else p.row⟩

/-- The characters ahead. -/
def ahead : Parse (List Char) := do
  return (← get).rest

/-- Moves over `n` characters. -/
def skip (n : Nat) : Parse Unit :=
  modify (Nat.repeat step n)

/-- Moves over the characters in `p` and gives them. -/
def takeWhile (p : Char → Bool) : Parse (List Char) := do
  let taken := (← ahead).takeWhile p
  skip taken.length
  return taken

/-- Reads exactly this text. -/
def exactly (s : String) : Parse Unit := do
  if s.toList.isPrefixOf (← ahead) then skip s.length else failure

/-- The result of a parser, or nothing without having moved. -/
def attempt (p : Parse α) : Parse (Option α) :=
  fun s =>
    match p s with
    | some (a, t) => some (some a, t)
    | none => some (none, s)

/-- The result of a parser without moving. -/
def peek (p : Parse α) : Parse α :=
  fun s => (p s).map fun (a, _) => (a, s)

/-- Whether a parser succeeds here; nothing is read. -/
def wouldRead (p : Parse α) : Parse Bool :=
  fun s => some ((p s).isSome, s)

/-- Reads with `p` up to `fuel` times while it succeeds and moves on. -/
def manyFrom (p : Parse α) : Nat → Place → List α × Place
  | 0, s => ([], s)
  | fuel + 1, s =>
    match p s with
    | none => ([], s)
    | some (a, t) =>
      if s.offset < t.offset then
        let (rest, u) := manyFrom p fuel t
        (a :: rest, u)
      else ([], s)

/-- Reads as often as possible. -/
def many (p : Parse α) : Parse (List α) :=
  fun s => some (manyFrom p s.rest.length s)

/-- The items of a list with separators between them. -/
def separated (separator : Parse β) (p : Parse α) : Parse (List α) := do
  match ← attempt p with
  | none => return []
  | some first => return first :: (← many (separator *> p))

/-- Fails unless the condition holds. -/
def require (condition : Bool) : Parse Unit :=
  if condition then pure () else failure

/-- A node from a place to the place reached, with the given children. -/
def nodeFrom (start : Place) (form : Form) (children : List Tree) : Parse Tree := do
  return .node form .plain ⟨start.offset, (← get).offset, start.row⟩ children

/-- A node from the start of its first child to the place reached. -/
def nodeSince (first : Tree) (form : Form) (children : List Tree) : Parse Tree := do
  return .node form .plain ⟨first.region.start, (← get).offset, first.region.row⟩ children

/-- The result of the first parser that succeeds. -/
def firstOf : List (Parse α) → Parse α
  | [] => failure
  | [p] => p
  | p :: rest => fun s =>
    match p s with
    | some r => some r
    | none => firstOf rest s

/-- A node that ends where its last child ends. -/
def nodeAround (form : Form) (first last : Tree) (children : List Tree) : Tree :=
  .node form .plain ⟨first.region.start, last.region.stop, first.region.row⟩ children

/-- Closes a grammar over its symbols; `depth` bounds how deep symbols nest. -/
def knot {σ : Type} (grammar : (σ → Parse Tree) → σ → Parse Tree) : Nat → σ → Parse Tree
  | 0, _ => failure
  | depth + 1, symbol => grammar (knot grammar depth) symbol

end Parse

end Adjudicator.Outline
