import Adjudicator.Outline.ByLine
import Adjudicator.Outline.Comparison
import Adjudicator.Outline.Python.Collect
import Adjudicator.Outline.Script.Collect

/-!
# Reading outlines

A text of a language with a grammar is read by its parser. Any other text is read line by line, and
so is one that the parser gives no tree for, or a faulty tree in which nothing is found. The parser
is given from outside.
-/

namespace Adjudicator.Outline

/-- The parsers that are taken where no others are given. They read texts without faults only. -/
def Grammars.usual : Grammars :=
  { script := fun typed text => some (Script.Grammar.parsed typed text)
    python := fun text => some (Python.Grammar.parsed text) }

/-- The outline of a text whose first line has the given number. -/
def ofText (language : Language) (text : List Char) (first : Nat)
    (grammars : Grammars := .usual) : Outline :=
  let parsed :=
    match language with
    | .typescript => Script.outline? (grammars.script true) text first
    | .javascript => Script.outline? (grammars.script false) text first
    | .python => Python.outline? grammars.python text first
    | _ => none
  parsed.getD (ByLine.outline language text first)

/-- An outline with the constants of a file whose names it does not have. -/
def withConstants (o file : Outline) : Outline :=
  { o with
    constants :=
      file.constants.foldl
        (fun known c => if known.any fun k => k.name == c.name then known else known ++ [c])
        o.constants }

/-- A body and the number of its first line. -/
structure Excerpt where
  /-- The text. -/
  text : List Char
  /-- The line of the file on which it begins. -/
  first : Nat
deriving DecidableEq, Repr

/-- Compares the body of a test with the body of a method, which may use the constants of its
file. -/
def comparePair (language : Language) (test method : Excerpt) (file : Option (List Char))
    (grammars : Grammars := .usual) : Comparison :=
  let source := ofText language method.text method.first grammars
  let known :=
    match file with
    | some text => source.withConstants (ofText language text 1 grammars)
    | none => source
  compare (ofText language test.text test.first grammars) known

end Adjudicator.Outline
