import Adjudicator.Code.Literal
import Adjudicator.Text.Blank
import Adjudicator.Text.Search

/-!
# Argument lists

A list of parameters or arguments is cut at the commas outside all brackets and literals. The
arguments of a call are the text between a parenthesis and the one that closes it; a call that
goes on behind the line has the rest of the line as its arguments.
-/

namespace Adjudicator.Code

open Text

/-- State of the scan of a list: open brackets, open quote and the character before. -/
structure ListScan where
  /-- Number of open brackets. -/
  depth : Nat
  /-- The open quote, if any. -/
  quote : Option Char
  /-- The character before. -/
  prev : Char
deriving DecidableEq, Repr

namespace ListScan

/-- The state at the start of a list. -/
def start : ListScan :=
  ⟨0, none, Char.ofNat 0⟩

/-- Whether `c` is a quote character. -/
def isQuote (c : Char) : Bool :=
  c == '"' || c == '\'' || c == backtick

/-- Whether `c` opens a bracket. -/
def opens (c : Char) : Bool :=
  c == '(' || c == '[' || c == '{' || c == '<'

/-- Whether `c` closes a bracket; the point of an arrow does not. -/
def closes (prev c : Char) : Bool :=
  c == ')' || c == ']' || c == '}' || (c == '>' && prev != '-' && prev != '=')

/-- Whether `c` separates two items in this state. -/
def separates (s : ListScan) (c : Char) : Bool :=
  s.quote.isNone && s.depth == 0 && c == ','

/-- Reads one character. A quote ends a literal unless a backslash stands before it. -/
def step (s : ListScan) (c : Char) : ListScan :=
  match s.quote with
  | some q => { s with quote := if c = q ∧ s.prev ≠ '\\' then none else some q, prev := c }
  | none =>
    if isQuote c then { s with quote := some c, prev := c }
    else if opens c then { s with depth := s.depth + 1, prev := c }
    else if closes s.prev c then { s with depth := s.depth - 1, prev := c }
    else { s with prev := c }

end ListScan

/-- The pieces between separating commas. -/
def piecesFrom (s : ListScan) : List Char → List (List Char)
  | [] => [[]]
  | c :: rest =>
    if s.separates c then [] :: piecesFrom (s.step c) rest
    else
      match piecesFrom (s.step c) rest with
      | [] => [[c]]
      | piece :: pieces => (c :: piece) :: pieces

/-- The trimmed items of a list; empty items do not count. -/
def splitTopLevel (list : List Char) : List (List Char) :=
  ((piecesFrom .start list).map trim).filter fun piece => !piece.isEmpty

/-- State of the scan of a call: open parentheses, open quote and whether the next character is
escaped. -/
structure CallScan where
  /-- Number of open parentheses. -/
  depth : Nat
  /-- The open quote, if any. -/
  quote : Option Char
  /-- Whether the next character is escaped. -/
  escaped : Bool
deriving DecidableEq, Repr

/-- The text up to the parenthesis that closes the call, and whether there is one. -/
def argumentsFrom (s : CallScan) : List Char → List Char × Bool
  | [] => ([], false)
  | c :: rest =>
    let next (s : CallScan) :=
      let (text, closed) := argumentsFrom s rest
      (c :: text, closed)
    match s.quote with
    | some q =>
      if s.escaped then next { s with escaped := false }
      else if c = '\\' then next { s with escaped := true }
      else if c = q then next { s with quote := none }
      else next s
    | none =>
      if ListScan.isQuote c then next { s with quote := some c }
      else if c = '(' then next { s with depth := s.depth + 1 }
      else if c = ')' then
        if s.depth = 0 then ([], true) else next { s with depth := s.depth - 1 }
      else next s

/-- What remains of a call's text when its parenthesis does not close on the line. -/
def trimOpenCall (s : List Char) : List Char :=
  dropEndWhile (fun c => c == ';' || c == '{' || c == ' ') s

/-- The arguments of a call from the text that starts with its parenthesis. -/
def balancedArguments? : List Char → Option (List Char)
  | '(' :: rest =>
    let (text, closed) := argumentsFrom ⟨0, none, false⟩ rest
    some (if closed then text else trimOpenCall rest)
  | _ => none

/-- What follows the arguments and their closing character, when the text goes on that far. -/
def afterArguments? (call : List Char) : Option (List Char) :=
  (balancedArguments? call).bind fun arguments =>
    if arguments.length + 2 ≤ call.length then some (call.drop (arguments.length + 2)) else none

/-- The arguments of the call whose parenthesis stands behind `offset` bytes of a line. -/
def balancedArgumentsAt? (line : List Char) (offset : Nat) : Option (List Char) :=
  (dropBytes? offset line).bind balancedArguments?

end Adjudicator.Code
