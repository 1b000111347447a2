import Adjudicator.Report.Basic
import Adjudicator.Report.Grid
import Adjudicator.Text.Lines
import Adjudicator.Text.Search

/-!
# Reports for readers

The verdicts of a report as a grid, with the counts and the reasons below it, and the weak spots of
a test as a grid below its score. Text outside the grids can be painted.
-/

namespace Adjudicator

open Text

/-- How a text is painted on a terminal. -/
inductive Paint where
  | bold
  | red
  | green
  | yellow
deriving DecidableEq, Repr, Inhabited

namespace Paint

/-- The terminal's code. -/
def code : Paint → Nat
  | bold => 1
  | red => 31
  | green => 32
  | yellow => 33

/-- The character that begins a command to a terminal. -/
def escape : Char :=
  Char.ofNat 27

/-- A command that sets how text is shown. -/
def command (code : Nat) : List Char :=
  escape :: '[' :: Number.natChars code ++ ['m']

/-- A text that is painted when there are colours, also behind each end of paint within it. -/
def apply (paint : Paint) (colored : Bool) (s : String) : String :=
  let start := command paint.code
  let stop := command 0
  if colored then String.ofList (start ++ replace stop (stop ++ start) s.toList ++ stop) else s

end Paint

/-- A part of one as a percentage without a fraction. -/
def percentText (x : Float) : String :=
  String.ofList (Number.fixed 0 (x * 100.0)) ++ "%"

/-- Lines as one text. -/
def textOfLines (ls : List (List Char)) : String :=
  String.ofList (joinLines ls)

/-- What is shown when there are no pairs. -/
def noPairs : String :=
  "No correlated test/source pairs found."

namespace Report

/-- The verdict of a report with a mark for regressions. -/
def verdictLabel (r : PairReport) : String :=
  if r.regression then r.kind.name ++ " (regression)" else r.kind.name

/-- The row of a pair, with paths seen from a directory. -/
def row (base : Path) (r : PairReport) : List Cell :=
  [.left (r.test ++ "\n" ++ r.testFile.relativeTo base), .left r.method, .left (verdictLabel r),
    .right (percentText r.confidence), .left (r.suggestions.headD "")]

/-- The grid of a report. -/
def grid (base : Path) (r : Report) : Grid :=
  { headers := ["Test", "Source", "Verdict", "Confidence", "Suggestion"].map Cell.left
    rows := r.results.map (row base) }

/-- What verdicts of a kind are called when they are counted. -/
def countLabel : VerdictKind → String
  | .codeBug => "code bug"
  | .outdatedTest => "outdated test"
  | .flakyTest => "flaky"
  | .environmentIssue => "environment"
  | .passed => "passed"

/-- How the count of a kind is painted. -/
def countPaint? : VerdictKind → Option Paint
  | .codeBug => some .red
  | .outdatedTest => some .yellow
  | .passed => some .green
  | _ => none

/-- The count of a kind, when it is not zero. -/
def countText? (colored : Bool) (s : Summary) (kind : VerdictKind) : Option String :=
  let n := s.count kind
  let text := s!"{n} {countLabel kind}"
  if n = 0 then none
  else
    match countPaint? kind with
    | some p => some (p.apply colored text)
    | none => some text

/-- The counts of a report. -/
def summaryText (colored : Bool) (s : Summary) : String :=
  let total := Paint.bold.apply colored (toString s.total)
  let counts := ", ".intercalate (VerdictKind.all.filterMap (countText? colored s))
  let regressions := if s.regressions = 0 then "" else s!" ({s.regressions} regression(s))"
  s!"{total} pairs analyzed: {counts}{regressions}"

/-- The reason of a verdict below the grid. -/
def reasonText (colored : Bool) (r : PairReport) : String :=
  let mark := Paint.bold.apply colored "▸"
  let name := Paint.bold.apply colored r.test
  s!"\n\n{mark} {name}\n  {r.reasoning}"

/-- A report for readers, with paths seen from a directory. -/
def render (colored : Bool) (base : Path) (r : Report) : String :=
  if r.results.isEmpty then noPairs
  else
    let reasons := (r.results.filter fun p => p.kind != .passed).map (reasonText colored)
    textOfLines (r.grid base).draw ++ "\n" ++ summaryText colored r.summary ++ String.join reasons

end Report

namespace PairMutations

/-- The row of a weak spot. -/
def row (w : WeakSpot) : List Cell :=
  [.right (toString w.line), .left (String.ofList w.code), .left w.severity.name,
    .left w.suggestion]

/-- The grid of weak spots. -/
def grid (spots : List WeakSpot) : Grid :=
  { headers := ["Line", "Code", "Severity", "Suggestion"].map Cell.left
    rows := spots.map row }

/-- The score of a pair. -/
def scoreText (m : PairMutations) : String :=
  let score := percentText m.report.score
  s!"{m.pair.test.name} -> {m.pair.method.name}: {m.report.caught}/{m.report.total} " ++
    s!"mutations caught ({score})"

/-- The mutations of a pair for readers. -/
def renderOne (colored : Bool) (m : PairMutations) : String :=
  if m.report.weakSpots.isEmpty then Paint.green.apply colored m.scoreText
  else
    Paint.bold.apply colored m.scoreText ++ "\n" ++ textOfLines (grid m.report.weakSpots).draw

/-- The mutations of pairs for readers. -/
def render (colored : Bool) (pairs : List PairMutations) : String :=
  if pairs.isEmpty then noPairs else "\n\n".intercalate (pairs.map (renderOne colored))

end PairMutations

end Adjudicator
