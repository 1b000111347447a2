import Adjudicator.Code.Literal
import Adjudicator.Text.Blank

/-!
# Signatures over several lines

The lines of a declaration up to the end of its parameter list are joined by blanks, without the
contents of literals.
-/

namespace Adjudicator.Code

open Text

/-- Opening less closing parentheses. -/
def callDelta (s : List Char) : Int :=
  s.foldl
    (fun balance c => if c = '(' then balance + 1 else if c = ')' then balance - 1 else balance) 0

/-- Joins lines to `joined` until the parentheses close or `fuel` lines are read. The second
result is the index of the last line read, where `index` is that of the next. -/
def joinFrom (joined : List Char) (depth : Int) (seen : Bool) (last : Nat) :
    Nat → Nat → List (List Char) → List Char × Nat
  | 0, _, _ => (joined, last)
  | _ + 1, _, [] => (joined, last)
  | fuel + 1, index, line :: rest =>
    let cleaned := stripLiterals line
    let joined := (if joined.isEmpty then [] else joined ++ [' ']) ++ trim cleaned
    let seen := seen || cleaned.contains '('
    let depth := depth + callDelta cleaned
    if !seen ∨ depth ≤ 0 then (joined, index)
    else joinFrom joined depth seen index fuel (index + 1) rest

/-- The declaration that starts on a line, joined over at most `limit` lines, and the index of its
last line. -/
def joinSignature (lines : List (List Char)) (start limit : Nat) : List Char × Nat :=
  joinFrom [] 0 false start limit start (lines.drop start)

end Adjudicator.Code
