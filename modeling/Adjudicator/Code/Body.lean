import Adjudicator.Code.Literal
import Adjudicator.Text.Blank
import Adjudicator.Text.Lines
import Adjudicator.Text.Search

/-!
# Bodies of declarations

Where a declaration begins is known; its body ends where its braces close or, for languages that
indent their blocks, before the first line that is indented no deeper than the declaration. A span
holds the lines from the declaration to the end of the body.
-/

namespace Adjudicator.Code

open Text

/-- Consecutive lines of a file, counted from one. -/
structure Span where
  /-- First line. -/
  first : Nat
  /-- Last line. -/
  last : Nat
  /-- The lines as one text. -/
  text : List Char
deriving DecidableEq, Repr

/-- The span of the lines from index `start` to index `stop`. -/
def Span.ofLines (lines : List (List Char)) (start stop : Nat) : Span :=
  ⟨start + 1, stop + 1, joinLines ((lines.drop start).take (stop + 1 - start))⟩

/-- How far the search for a body in braces has come. -/
inductive BraceScan where
  /-- No brace yet. -/
  | seeking
  /-- Inside the body, with the number of open braces. -/
  | inside (depth : Nat)
  /-- The body has ended. -/
  | closed
  /-- A semicolon came before the first brace. -/
  | refused
deriving DecidableEq, Repr

namespace BraceScan

/-- Reads one character of a stripped line. -/
def step (s : BraceScan) (c : Char) : BraceScan :=
  match s with
  | seeking => if c = '{' then inside 1 else if c = ';' then refused else seeking
  | inside depth =>
    if c = '{' then inside (depth + 1)
    else if c = '}' then if depth = 1 then closed else inside (depth - 1)
    else inside depth
  | s => s

/-- Reads a line outside literals and comments. -/
def readLine (s : BraceScan) (line : List Char) : BraceScan :=
  (stripLiterals line).foldl step s

end BraceScan

/-- How many lines of `lines` a body in braces takes, when its first brace is among the first
`lookahead + 1` of them; `read` lines come before. -/
def braceLength (lookahead : Nat) (s : BraceScan) (read : Nat) :
    List (List Char) → Option Nat
  | [] =>
    match s with
    | .inside _ => some read
    | _ => none
  | line :: rest =>
    match s.readLine line with
    | .closed => some (read + 1)
    | .refused => none
    | .inside depth => braceLength lookahead (.inside depth) (read + 1) rest
    | .seeking => if lookahead ≤ read then none else braceLength lookahead .seeking (read + 1) rest

/-- The span of a declaration whose body stands in braces. A body that never closes extends to
the end of the file; a declaration without a body has no span. -/
def braceBody? (lines : List (List Char)) (start lookahead : Nat) : Option Span :=
  (braceLength lookahead .seeking 0 (lines.drop start)).map fun length =>
    Span.ofLines lines start (start + length - 1)

/-- Width of the leading blanks, where a tab is as wide as four. -/
def indentOf (line : List Char) : Nat :=
  (line.takeWhile isBlank).foldl (fun width c => width + if c = '\t' then 4 else 1) 0

/-- A line without literals and without the comment that a hash sign begins. -/
def stripHashComment (line : List Char) : List Char :=
  (stripLiterals line).takeWhile (· != '#')

/-- Opening less closing parentheses and brackets. -/
def parenDelta (s : List Char) : Int :=
  s.foldl
    (fun balance c =>
      if c = '(' ∨ c = '[' then balance + 1 else if c = ')' ∨ c = ']' then balance - 1 else balance)
    0

/-- How many lines the header of a declaration takes: up to the first line that ends with a colon
outside all parentheses, or all lines. Nothing when more than twenty lines follow the first. -/
def headerLength (depth : Int) (read : Nat) : List (List Char) → Option Nat
  | [] => some read
  | line :: rest =>
    let cleaned := stripHashComment line
    let depth := depth + parenDelta cleaned
    if depth ≤ 0 ∧ (trimEnd cleaned).getLast? = some ':' then some (read + 1)
    else if 20 < read then none
    else headerLength depth (read + 1) rest

/-- How many lines an indented body takes; blank lines count only when a line of the body
follows. -/
def indentedLength (limit : Nat) : List (List Char) → Nat
  | [] => 0
  | line :: rest =>
    if blank line then
      match indentedLength limit rest with
      | 0 => 0
      | n => n + 1
    else if indentOf line ≤ limit then 0
    else indentedLength limit rest + 1

/-- The span of a declaration whose body is indented. -/
def indentBody? (lines : List (List Char)) (start : Nat) : Option Span :=
  match lines.drop start with
  | [] => none
  | declaration :: rest =>
    (headerLength 0 0 (declaration :: rest)).map fun header =>
      let body := indentedLength (indentOf declaration) (lines.drop (start + header))
      Span.ofLines lines start (start + header + body - 1)

/-- Whether a trimmed line is only a comment. -/
def isComment (trimmed : List Char) : Bool :=
  match trimmed with
  | '/' :: '/' :: _ | '/' :: '*' :: _ | '*' :: _ => true
  | '#' :: '[' :: _ => false
  | '#' :: _ => true
  | _ => false

/-- Words that look like the name of a call. -/
def controlKeywords : List String :=
  ["if", "for", "while", "switch", "catch", "return", "new", "else", "do", "try", "throw",
    "synchronized", "using", "foreach", "lock", "match", "loop", "function", "typeof", "sizeof",
    "await", "yield", "case", "delete"]

/-- Whether a word only looks like the name of a call. -/
def isControlKeyword (word : List Char) : Bool :=
  controlKeywords.contains (String.ofList word)

end Adjudicator.Code
