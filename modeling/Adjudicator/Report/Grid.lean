import Adjudicator.Text.Blank
import Adjudicator.Text.Search
import Adjudicator.Text.Width

/-!
# Grids

A grid is drawn with frames around its cells. A cell may have several lines. Each column is as wide
as its widest line, with a blank on both sides.
-/

namespace Adjudicator

open Text

/-- On which side of its column a cell stands. -/
inductive Side where
  | left
  | right
deriving DecidableEq, Repr, Inhabited

/-- A cell of a grid. -/
structure Cell where
  /-- Its text. -/
  text : List Char
  /-- The side of its column. -/
  side : Side := .left
deriving DecidableEq, Repr, Inhabited

/-- A grid with a row of headers. -/
structure Grid where
  /-- The headers. -/
  headers : List Cell
  /-- The rows, as long as the headers. -/
  rows : List (List Cell)
deriving DecidableEq, Repr, Inhabited

namespace Cell

/-- A cell with a text on the left. -/
def left (s : String) : Cell :=
  ⟨s.toList, .left⟩

/-- A cell with a text on the right. -/
def right (s : String) : Cell :=
  ⟨s.toList, .right⟩

/-- The lines of a cell. -/
def lines (c : Cell) : List (List Char) :=
  splitWhere (· == '\n') c.text

/-- The columns of the widest line. -/
def width (c : Cell) : Nat :=
  (c.lines.map Text.width).foldl max 0

/-- A line in a column of a width. -/
def placed (side : Side) (width : Nat) (line : List Char) : List Char :=
  let room := List.replicate (width - Text.width line) ' '
  ' ' :: (match side with
    | .left => line ++ room
    | .right => room ++ line) ++ [' ']

/-- A line of the cell in a column of a width, blank when the cell has fewer lines. -/
def lineAt (width : Nat) (i : Nat) (c : Cell) : List Char :=
  match c.lines[i]? with
  | some line => placed c.side width line
  | none => List.replicate (width + 2) ' '

end Cell

namespace Grid

/-- The widths of the columns. -/
def widths (g : Grid) : List Nat :=
  g.rows.foldl (fun ws row => List.zipWith (fun w c => max w (Cell.width c)) ws row)
    (g.headers.map Cell.width)

/-- The characters of a frame: its left end, its line, its crossings and its right end. -/
structure Frame where
  /-- Left end. -/
  left : Char
  /-- Line. -/
  line : Char
  /-- Crossing with the line between two columns. -/
  cross : Char
  /-- Right end. -/
  right : Char
deriving DecidableEq, Repr

/-- The frame above the headers. -/
def top : Frame :=
  ⟨'┌', '─', '┬', '┐'⟩

/-- The frame below the headers. -/
def below : Frame :=
  ⟨'╞', '═', '╪', '╡'⟩

/-- The frame between two rows. -/
def between : Frame :=
  ⟨'├', '╌', '┼', '┤'⟩

/-- The frame below the last row. -/
def bottom : Frame :=
  ⟨'└', '─', '┴', '┘'⟩

/-- A frame over columns of the given widths. -/
def Frame.draw (f : Frame) (ws : List Nat) : List Char :=
  f.left :: List.intercalate [f.cross] (ws.map fun w => List.replicate (w + 2) f.line) ++ [f.right]

/-- The lines of a row. -/
def drawRow (ws : List Nat) (row : List Cell) : List (List Char) :=
  let height := (row.map fun c => c.lines.length).foldl max 0
  (List.range height).map fun i =>
    '│' :: List.intercalate ['┆'] (List.zipWith (fun w c => Cell.lineAt w i c) ws row) ++ ['│']

/-- The lines of a grid. -/
def draw (g : Grid) : List (List Char) :=
  let ws := g.widths
  let rows := List.intercalate [between.draw ws] (g.rows.map (drawRow ws))
  top.draw ws :: drawRow ws g.headers ++ below.draw ws :: rows ++ [bottom.draw ws]

end Grid

end Adjudicator
