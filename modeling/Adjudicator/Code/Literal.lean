/-!
# Literals on a line

Inside a line, a quote character opens a literal that ends at the same quote; a backslash inside
it escapes the next character. A single quote opens a literal only when another one follows on the
line and the quote does not mark a lifetime. Two slashes outside literals begin a comment.
Stripping keeps what is code, and the quotes themselves, and drops the rest of the line's text.
-/

namespace Adjudicator.Code

/-- The quote of template texts and raw texts. -/
def backtick : Char :=
  Char.ofNat 0x60

/-- Whether a single quote after `prev` and before `rest` marks a lifetime. -/
def marksLifetime (prev : Char) (rest : List Char) : Bool :=
  (prev == '&' || prev == '<') && !(rest.take 3).contains '\''

/-- The quote that `c` opens outside literals, where `rest` follows. -/
def opened? (prev c : Char) (rest : List Char) : Option Char :=
  if c = '"' ∨ c = backtick then some c
  else if c = '\'' ∧ !marksLifetime prev rest ∧ rest.contains '\'' then some c
  else none

/-- Strips a line from a place with an open quote or none and a character before it. -/
def stripFrom (quote : Option Char) (prev : Char) : List Char → List Char
  | [] => []
  | c :: rest =>
    match quote with
    | some q =>
      if c = '\\' then
        match rest with
        | [] => []
        | _ :: rest => stripFrom quote c rest
      else if c = q then c :: stripFrom none c rest
      else stripFrom quote c rest
    | none =>
      if c = '/' ∧ rest.head? = some '/' then []
      else c :: stripFrom (opened? prev c rest) c rest

/-- A line without the contents of its literals and without its comment. -/
def stripLiterals (line : List Char) : List Char :=
  stripFrom none (Char.ofNat 0) line

/-- Opening less closing braces in a stripped text. -/
def braceBalance (stripped : List Char) : Int :=
  stripped.foldl
    (fun balance c => if c = '{' then balance + 1 else if c = '}' then balance - 1 else balance) 0

/-- Opening less closing braces of a line outside literals and comments. -/
def braceDelta (line : List Char) : Int :=
  braceBalance (stripLiterals line)

end Adjudicator.Code
