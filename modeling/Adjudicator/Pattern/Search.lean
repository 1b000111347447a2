import Adjudicator.Pattern.Basic

/-!
# Finding patterns in texts

`find?` gives the match that starts first; of the matches with that start it is the pattern's
first choice. `findAll` goes on behind each match, so matches never overlap, and an empty match
directly behind the previous match does not count.
-/

namespace Adjudicator

/-- A place where a pattern fits a text. -/
structure Match where
  /-- The text searched. -/
  subject : List Char
  /-- The number of characters before the match. -/
  start : Nat
  /-- The number of characters up to the end of the match. -/
  stop : Nat
  /-- The recorded groups, newest first. -/
  marks : List (Nat × Nat × Nat)
deriving DecidableEq, Repr

namespace Match

/-- The matched text. -/
def text (m : Match) : List Char :=
  (m.subject.drop m.start).take (m.stop - m.start)

/-- The text before the match. -/
def before (m : Match) : List Char :=
  m.subject.take m.start

/-- The text behind the match. -/
def after (m : Match) : List Char :=
  m.subject.drop m.stop

/-- Where a group starts and stops, when it took part. -/
def span? (m : Match) (number : Nat) : Option (Nat × Nat) :=
  m.marks.lookup number

/-- The text of a group, when it took part. -/
def group? (m : Match) (number : Nat) : Option (List Char) :=
  (m.span? number).map fun (start, stop) => (m.subject.drop start).take (stop - start)

/-- The text of a group, empty when it took no part. -/
def group (m : Match) (number : Nat) : List Char :=
  (m.group? number).getD []

end Match

namespace Pattern

/-- The end of the pattern's first choice at a cursor. -/
def tryAt (p : Pattern) (c : Cursor) : Option Cursor :=
  p.run c some

/-- The first match at or after a place in `subject`. -/
def findFrom (p : Pattern) (subject : List Char) (prev : Option Char) (index : Nat) :
    List Char → Option Match
  | [] => (p.tryAt ⟨prev, [], index, []⟩).map fun d => ⟨subject, index, d.index, d.marks⟩
  | c :: rest =>
    match p.tryAt ⟨prev, c :: rest, index, []⟩ with
    | some d => some ⟨subject, index, d.index, d.marks⟩
    | none => findFrom p subject (some c) (index + 1) rest

/-- The first match in a text. -/
def find? (p : Pattern) (s : List Char) : Option Match :=
  p.findFrom s none 0 s

/-- Whether the pattern fits somewhere in a text. -/
def found (p : Pattern) (s : List Char) : Bool :=
  (p.find? s).isSome

/-- The matches at or after a place in `subject` that lies `skip` characters before the end of
the previous match, which is at `last`. -/
def findAllFrom (p : Pattern) (subject : List Char) (last : Option Nat) (skip : Nat)
    (prev : Option Char) (index : Nat) : List Char → List Match
  | [] =>
    match skip, p.tryAt ⟨prev, [], index, []⟩ with
    | 0, some d =>
      if last = some index then [] else [⟨subject, index, d.index, d.marks⟩]
    | _, _ => []
  | c :: rest =>
    match skip with
    | skip + 1 => findAllFrom p subject last skip (some c) (index + 1) rest
    | 0 =>
      match p.tryAt ⟨prev, c :: rest, index, []⟩ with
      | none => findAllFrom p subject last 0 (some c) (index + 1) rest
      | some d =>
        if d.index = index ∧ last = some index then
          findAllFrom p subject last 0 (some c) (index + 1) rest
        else
          ⟨subject, index, d.index, d.marks⟩ ::
            findAllFrom p subject (some d.index) (d.index - index - 1) (some c) (index + 1) rest

/-- All matches in a text from left to right. -/
def findAll (p : Pattern) (s : List Char) : List Match :=
  p.findAllFrom s none 0 none 0 s

end Pattern

end Adjudicator
