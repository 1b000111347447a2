import Adjudicator.Text.Search
import Adjudicator.Text.WordChar

/-!
# Scripts

A script is a list of commands: programs with their arguments and redirections, loops over words,
choices, and commands joined by their success. A word consists of pieces that are text or stand
for a value; quoted pieces keep their blanks.
-/

namespace Adjudicator.Shell

open Text

/-- A piece of a word. -/
inductive Piece where
  /-- The text itself. -/
  | text (s : List Char) (quoted : Bool)
  /-- The value of a parameter. -/
  | parameter (name : List Char) (quoted : Bool)
  /-- What a script prints. -/
  | printed (script : List Char) (quoted : Bool)
deriving DecidableEq, Repr

/-- A word. -/
abbrev Word :=
  List Piece

/-- A change of where a command reads from or writes to. -/
inductive Redirect where
  /-- Reads from a file. -/
  | input (file : Word)
  /-- Writes a stream to a file, behind its end when `append`. -/
  | output (stream : Nat) (append : Bool) (file : Word)
  /-- Writes a stream to where another goes. -/
  | same (stream target : Nat)
deriving DecidableEq, Repr

/-- A command. -/
inductive Command where
  /-- A program with its arguments. -/
  | simple (words : List Word) (redirects : List Redirect)
  /-- A body for every item. -/
  | forEach (name : List Char) (items : List Word) (body : List Command)
  /-- The first branch with a pattern that fits. -/
  | select (subject : Word) (branches : List (List Word × List Command))
  /-- A choice by the success of a condition. -/
  | branch (condition yes no : List Command)
  /-- A body as long as a condition succeeds. -/
  | loop (condition body : List Command)
  /-- The second command if the first succeeds. -/
  | both (first second : Command)
  /-- The second command if the first fails. -/
  | either (first second : Command)
  /-- The second command with what the first prints. -/
  | piped (first second : Command)
deriving Repr, Inhabited

/-- The text up to a closing parenthesis, with the text behind it; `depth` more are open. -/
def parenthesized? (depth : Nat) : List Char → Option (List Char × List Char)
  | [] => none
  | c :: rest =>
    if c = ')' ∧ depth = 0 then some ([], rest)
    else
      let inner := if c = '(' then depth + 1 else if c = ')' then depth - 1 else depth
      (parenthesized? inner rest).map fun (s, rest) => (c :: s, rest)

/-- The value that a dollar sign stands for, with the text behind it. -/
def dollar? (quoted : Bool) : List Char → Option (Piece × List Char)
  | '(' :: rest =>
    (parenthesized? 0 rest).map fun (script, rest) => (.printed script quoted, rest)
  | '{' :: rest =>
    (cutWhere? (· == '\x7d') rest).map fun (name, rest) => (.parameter name quoted, rest)
  | c :: rest =>
    if "@*#?".toList.contains c || isAsciiDigit c then some (.parameter [c] quoted, rest)
    else
      let name := (c :: rest).takeWhile isWord
      if name.isEmpty then some (.text ['$'] quoted, c :: rest)
      else some (.parameter name quoted, (c :: rest).dropWhile isWord)
  | [] => some (.text ['$'] quoted, [])

/-- The pieces between double quotes, with the text behind the closing quote. -/
def doubleQuoted? : Nat → List Char → Option (Word × List Char)
  | 0, _ => none
  | fuel + 1, s =>
    match s with
    | [] => none
    | '"' :: rest => some ([.text [] true], rest)
    | '\\' :: c :: rest =>
      let kept := if "\"\\$".toList.contains c then [c] else ['\\', c]
      (doubleQuoted? fuel rest).map fun (w, rest) => (.text kept true :: w, rest)
    | '$' :: rest =>
      match dollar? true rest with
      | some (piece, rest) => (doubleQuoted? fuel rest).map fun (w, rest) => (piece :: w, rest)
      | none => none
    | c :: rest => (doubleQuoted? fuel rest).map fun (w, rest) => (.text [c] true :: w, rest)

/-- The characters that end a word. -/
def endsWord (c : Char) : Bool :=
  " \t\n;&|<>()".toList.contains c

/-- The pieces of a word, with the text behind it. -/
def pieces? : Nat → List Char → Option (Word × List Char)
  | 0, _ => none
  | fuel + 1, s =>
    match s with
    | [] => some ([], [])
    | '\'' :: rest =>
      match cutWhere? (· == '\'') rest with
      | some (inner, rest) =>
        (pieces? fuel rest).map fun (w, rest) => (.text inner true :: w, rest)
      | none => none
    | '"' :: rest =>
      match doubleQuoted? fuel rest with
      | some (inner, rest) => (pieces? fuel rest).map fun (w, rest) => (inner ++ w, rest)
      | none => none
    | '\\' :: '\n' :: rest => pieces? fuel rest
    | '\\' :: c :: rest => (pieces? fuel rest).map fun (w, rest) => (.text [c] true :: w, rest)
    | '$' :: rest =>
      match dollar? false rest with
      | some (piece, rest) => (pieces? fuel rest).map fun (w, rest) => (piece :: w, rest)
      | none => none
    | c :: rest =>
      if endsWord c then some ([], s)
      else (pieces? fuel rest).map fun (w, rest) => (.text [c] false :: w, rest)

/-- Skips blanks of a line and a comment. -/
def skipBlanks (s : List Char) : List Char :=
  match s.dropWhile fun c => c == ' ' || c == '\t' with
  | '#' :: rest => rest.dropWhile (· != '\n')
  | rest => rest

/-- Skips blanks, line ends and semicolons. -/
def skipEnds : Nat → List Char → List Char
  | 0, s => s
  | fuel + 1, s =>
    match skipBlanks s with
    | '\n' :: rest | ';' :: rest => skipEnds fuel rest
    | rest => rest

/-- A word that is not empty, with the text behind it. -/
def word? (s : List Char) : Option (Word × List Char) :=
  let s := skipBlanks s
  match pieces? (s.length + 1) s with
  | some ([], _) => none
  | found => found

/-- The bare text of a word without quotes and values. -/
def bare (w : Word) : List Char :=
  w.flatMap fun piece =>
    match piece with
    | .text s false => s
    | _ => ['\'']

/-- What follows a bare word, when it comes next. -/
def keyword? (name : String) (s : List Char) : Option (List Char) :=
  match word? s with
  | some (w, rest) => if bare w = name.toList then some rest else none
  | none => none

/-- A redirection, with the text behind it. -/
def redirect? (s : List Char) : Option (Redirect × List Char) :=
  let s := skipBlanks s
  let (stream, rest) :=
    match s with
    | '1' :: '>' :: rest => (1, '>' :: rest)
    | '2' :: '>' :: rest => (2, '>' :: rest)
    | _ => (1, s)
  match rest with
  | '<' :: rest => (word? rest).map fun (file, rest) => (.input file, rest)
  | '>' :: '>' :: rest => (word? rest).map fun (file, rest) => (.output stream true file, rest)
  | '>' :: '&' :: c :: rest => some (.same stream (c.toNat - 48), rest)
  | '>' :: rest => (word? rest).map fun (file, rest) => (.output stream false file, rest)
  | _ => none

/-- The words and redirections of a program call, with the text behind them. -/
def call : Nat → List Char → List Word × List Redirect × List Char
  | 0, s => ([], [], s)
  | fuel + 1, s =>
    match redirect? s with
    | some (r, rest) =>
      let (words, redirects, rest) := call fuel rest
      (words, r :: redirects, rest)
    | none =>
      match word? s with
      | some (w, rest) =>
        let (words, redirects, rest) := call fuel rest
        (w :: words, redirects, rest)
      | none => ([], [], s)

/-- Words up to the end of a line or a semicolon. -/
def words : Nat → List Char → List Word × List Char
  | 0, s => ([], s)
  | fuel + 1, s =>
    match word? s with
    | some (w, rest) =>
      let (others, rest) := words fuel rest
      (w :: others, rest)
    | none => ([], s)

/-- The patterns of a branch up to a closing parenthesis. -/
def patterns? : Nat → List Char → Option (List Word × List Char)
  | 0, _ => none
  | fuel + 1, s =>
    match word? s with
    | none => none
    | some (w, rest) =>
      match skipBlanks rest with
      | ')' :: rest => some ([w], rest)
      | '|' :: rest => (patterns? fuel rest).map fun (ws, rest) => (w :: ws, rest)
      | _ => none

mutual

/-- Commands up to one of several words, with the text behind that word and the word. -/
def commandsUntil? (stops : List String) : Nat → List Char →
    Option (List Command × String × List Char)
  | 0, _ => none
  | fuel + 1, s =>
    let s := skipEnds s.length s
    match stops.find? fun stop => (keyword? stop s).isSome with
    | some stop => some ([], stop, (keyword? stop s).getD [])
    | none =>
      if s.isEmpty then if stops.isEmpty then some ([], "", []) else none
      else
        match joined? fuel s with
        | none => none
        | some (c, rest) =>
          (commandsUntil? stops fuel rest).map fun (cs, stop, rest) => (c :: cs, stop, rest)

/-- Commands up to two semicolons or the end of a choice. -/
def branchBody? : Nat → List Char → Option (List Command × List Char)
  | 0, _ => none
  | fuel + 1, s =>
    match skipBlanks s with
    | ';' :: ';' :: rest => some ([], rest)
    | ';' :: rest | '\n' :: rest => branchBody? fuel rest
    | s =>
      if (keyword? "esac" s).isSome then some ([], s)
      else
        match joined? fuel s with
        | none => none
        | some (c, rest) => (branchBody? fuel rest).map fun (cs, rest) => (c :: cs, rest)

/-- The branches of a choice up to its end. -/
def branches? : Nat → List Char → Option (List (List Word × List Command) × List Char)
  | 0, _ => none
  | fuel + 1, s =>
    let s := skipEnds s.length s
    match keyword? "esac" s with
    | some rest => some ([], rest)
    | none =>
      let s := match s with | '(' :: rest => rest | _ => s
      match patterns? fuel s with
      | none => none
      | some (ps, rest) =>
        match branchBody? fuel rest with
        | none => none
        | some (body, rest) =>
          (branches? fuel rest).map fun (bs, rest) => ((ps, body) :: bs, rest)

/-- A choice by a condition, from behind its first word. -/
def branch? : Nat → List Char → Option (Command × List Char)
  | 0, _ => none
  | fuel + 1, s =>
    match commandsUntil? ["then"] fuel s with
    | none => none
    | some (condition, _, rest) =>
      match commandsUntil? ["elif", "else", "fi"] fuel rest with
      | none => none
      | some (yes, "fi", rest) => some (.branch condition yes [], rest)
      | some (yes, "else", rest) =>
        (commandsUntil? ["fi"] fuel rest).map fun (no, _, rest) =>
          (.branch condition yes no, rest)
      | some (yes, _, rest) =>
        (branch? fuel rest).map fun (no, rest) => (.branch condition yes [no], rest)

/-- One command without what joins it to others. -/
def command? : Nat → List Char → Option (Command × List Char)
  | 0, _ => none
  | fuel + 1, s =>
    match keyword? "for" s with
    | some rest =>
      match word? rest with
      | none => none
      | some (name, rest) =>
        let (items, rest) :=
          match keyword? "in" rest with
          | some rest => words fuel rest
          | none => ([[.parameter ['@'] true]], rest)
        match keyword? "do" (skipEnds rest.length rest) with
        | none => none
        | some rest =>
          (commandsUntil? ["done"] fuel rest).map fun (body, _, rest) =>
            (.forEach (bare name) items body, rest)
    | none =>
      match keyword? "case" s with
      | some rest =>
        match word? rest with
        | none => none
        | some (subject, rest) =>
          match keyword? "in" rest with
          | none => none
          | some rest =>
            (branches? fuel rest).map fun (bs, rest) => (.select subject bs, rest)
      | none =>
        match keyword? "if" s with
        | some rest => branch? fuel rest
        | none =>
          match keyword? "while" s with
          | some rest =>
            match commandsUntil? ["do"] fuel rest with
            | none => none
            | some (condition, _, rest) =>
              (commandsUntil? ["done"] fuel rest).map fun (body, _, rest) =>
                (.loop condition body, rest)
          | none =>
            match call s.length s with
            | ([], [], _) => none
            | (ws, rs, rest) => some (.simple ws rs, rest)

/-- A command and the commands joined to it. -/
def joined? : Nat → List Char → Option (Command × List Char)
  | 0, _ => none
  | fuel + 1, s =>
    match command? fuel s with
    | none => none
    | some (c, rest) => more? fuel c rest

/-- The commands joined to one that is read. -/
def more? : Nat → Command → List Char → Option (Command × List Char)
  | 0, _, _ => none
  | fuel + 1, first, s =>
    let next (join : Command → Command → Command) (rest : List Char) :=
      let rest := skipEnds rest.length rest
      match command? fuel rest with
      | none => none
      | some (second, rest) => more? fuel (join first second) rest
    match skipBlanks s with
    | '&' :: '&' :: rest => next .both rest
    | '|' :: '|' :: rest => next .either rest
    | '|' :: rest => next .piped rest
    | rest => some (first, rest)

end

/-- The commands of a script. -/
def parse? (script : List Char) : Option (List Command) :=
  (commandsUntil? [] (4 * script.length + 8) script).map (·.1)

end Adjudicator.Shell
