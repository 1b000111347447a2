/-!
# Lines

A line ends at a line feed, and a carriage return just before that line feed belongs to the line
end. A text that ends with a line feed has no empty last line. Joining puts a separator between
texts.
-/

namespace Adjudicator.Text

/-- Drops one carriage return from a line that is held newest character first. -/
def dropReturn : List Char → List Char
  | '\r' :: rest => rest
  | line => line

/-- The lines of `s`, where `line` holds the characters of the current line, newest first. -/
def linesFrom (line : List Char) : List Char → List (List Char)
  | [] => if line.isEmpty then [] else [line.reverse]
  | c :: rest =>
    if c = '\n' then (dropReturn line).reverse :: linesFrom [] rest
    else linesFrom (c :: line) rest

/-- The lines of a text without their line ends. -/
def lines (s : List Char) : List (List Char) :=
  linesFrom [] s

/-- The texts with `separator` between neighbours. -/
def joinWith (separator : List Char) (parts : List (List Char)) : List Char :=
  List.intercalate separator parts

/-- Lines as one text with line feeds between them. -/
def joinLines (parts : List (List Char)) : List Char :=
  joinWith ['\n'] parts

/-- The lines of a string. -/
def stringLines (s : String) : List (List Char) :=
  lines s.toList

end Adjudicator.Text
