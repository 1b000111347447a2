import Adjudicator.Code.Literal
import Adjudicator.Text.Blank
import Adjudicator.Text.Search

/-!
# Masked lines

A masked line has blanks for the contents of literals and for its comment, one for each byte, so
that byte positions in both lines agree. A backslash in a literal escapes the next character, a
single quote opens a literal only when another one follows and no ampersand or angle bracket
stands before it.
-/

namespace Adjudicator.Mutation

open Text

/-- A character of a line, and whether it is code. -/
structure Cell where
  /-- The character. -/
  char : Char
  /-- Whether it belongs to the code. -/
  isCode : Bool
deriving DecidableEq, Repr

/-- The quote that `c` opens outside literals. -/
def opened? (prev c : Char) (rest : List Char) : Option Char :=
  if c = '"' ∨ c = Code.backtick then some c
  else if c = '\'' ∧ prev ≠ '&' ∧ prev ≠ '<' ∧ rest.contains '\'' then some c
  else none

/-- The cells of a line from a place with an open quote or none, where the character before may
escape the next one. -/
def cellsFrom (quote : Option Char) (escaped : Bool) (prev : Char) : List Char → List Cell
  | [] => []
  | c :: rest =>
    match quote with
    | some q =>
      if escaped then ⟨c, false⟩ :: cellsFrom quote false c rest
      else if c = '\\' then ⟨c, false⟩ :: cellsFrom quote true c rest
      else if c = q then ⟨c, true⟩ :: cellsFrom none false c rest
      else ⟨c, false⟩ :: cellsFrom quote false c rest
    | none =>
      if c = '/' ∧ rest.head? = some '/' then (c :: rest).map fun c => ⟨c, false⟩
      else ⟨c, true⟩ :: cellsFrom (opened? prev c rest) false c rest

/-- The cells of a line. -/
def cells (line : List Char) : List Cell :=
  cellsFrom none false (Char.ofNat 0) line

/-- What a masked line shows of a cell. -/
def Cell.shown (c : Cell) : List Char :=
  if c.isCode then [c.char] else List.replicate c.char.utf8Size ' '

/-- The masked line. -/
def mask (line : List Char) : List Char :=
  (cells line).flatMap Cell.shown

/-- The first `n` bytes of a text, as far as whole characters go. -/
def takeBytes : Nat → List Char → List Char
  | _, [] => []
  | n, c :: rest => if c.utf8Size ≤ n then c :: takeBytes (n - c.utf8Size) rest else []

/-- The text behind the first `n` bytes. -/
def dropBytes (n : Nat) (s : List Char) : List Char :=
  s.drop (takeBytes n s).length

/-- A line cut around a part of its masked form, which is given by character positions there. -/
structure Cut where
  /-- The line before the part. -/
  before : List Char
  /-- The part. -/
  part : List Char
  /-- The line behind the part. -/
  after : List Char
deriving DecidableEq, Repr

/-- Cuts a line at two character positions of its masked form. -/
def cut (line masked : List Char) (start stop : Nat) : Cut :=
  let first := byteLength (masked.take start)
  let last := byteLength (masked.take stop)
  { before := takeBytes first line
    part := takeBytes (last - first) (dropBytes first line)
    after := dropBytes last line }

/-- The line with the part replaced, without blanks around it. -/
def Cut.replaced (c : Cut) (new : List Char) : List Char :=
  trim (c.before ++ new ++ c.after)

end Adjudicator.Mutation
