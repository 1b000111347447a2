import Adjudicator.Project.Glob
import Adjudicator.Text.Lines

/-!
# Exclusion rules

A rule excludes the paths that its pattern fits, or includes them again when it begins with an
exclamation mark. Paths are seen from the directory of the rule. A pattern without a slash fits at
any depth, one that begins with a slash only at the top, and one that ends with a slash only
directories. Of several rules the last that fits counts.
-/

namespace Adjudicator

open Text

/-- An exclusion rule. -/
structure Exclusion where
  /-- The pattern of paths. -/
  parts : List Glob
  /-- Whether the rule includes paths again. -/
  includes : Bool
  /-- Whether only directories are meant. -/
  onlyDirectories : Bool
deriving Repr, Inhabited

namespace Exclusion

/-- A rule cut at the marks at its start: whether it includes, whether it holds at the top only,
and its pattern. -/
def splitMarks : List Char → Bool × Bool × List Char
  | '\\' :: '!' :: rest => (false, false, '!' :: rest)
  | '\\' :: '#' :: rest => (false, false, '#' :: rest)
  | '!' :: '/' :: rest => (true, true, rest)
  | '!' :: rest => (true, false, rest)
  | '/' :: rest => (false, true, rest)
  | s => (false, false, s)

/-- A pattern without the slash at its end, and whether there was one. -/
def splitEnd (s : List Char) : Bool × List Char :=
  match s.reverse with
  | '/' :: '\\' :: rest => (true, rest.reverse)
  | '/' :: rest => (true, rest.reverse)
  | _ => (false, s)

/-- A pattern that fits at any depth when it has no slash. -/
def anywhere (top : Bool) (s : List Char) : List Char :=
  if top || s.contains '/' || s = ['*', '*'] then s else '*' :: '*' :: '/' :: s

/-- A pattern that means what lies in a directory and not the directory itself. -/
def onlyInside (s : List Char) : List Char :=
  if "/**".toList.isSuffixOf s then s ++ ['/', '*'] else s

/-- The rule of a line; nothing for a comment and for a blank line. -/
def ofLine? (line : List Char) : Except GlobError (Option Exclusion) :=
  let line := if "\\ ".toList.isSuffixOf line then line else trimEnd line
  if line.isEmpty || line.head? == some '#' then .ok none
  else
    let (includes, top, s) := splitMarks line
    let (onlyDirectories, s) := splitEnd s
    (Glob.ofText (onlyInside (anywhere top s))).map fun parts =>
      some { parts, includes, onlyDirectories }

/-- The rules of a file of rules; a line that is no rule is left out. -/
def ofFile (text : String) : List Exclusion :=
  (stringLines text).filterMap fun line => (ofLine? line).toOption.join

/-- Whether a rule fits a path, given by its names. -/
def fits (e : Exclusion) (names : List (List Char)) (isDirectory : Bool) : Bool :=
  (isDirectory || !e.onlyDirectories) && Glob.fits e.parts (List.intercalate ['/'] names)

/-- What rules say about a path: whether it is excluded, or nothing when none fits. -/
def excluded? (rules : List Exclusion) (names : List (List Char)) (isDirectory : Bool) :
    Option Bool :=
  (rules.reverse.find? fun e => e.fits names isDirectory).map fun e => !e.includes

end Exclusion

end Adjudicator
