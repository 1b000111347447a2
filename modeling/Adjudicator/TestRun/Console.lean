import Adjudicator.Number.Reading
import Adjudicator.Pattern.Build
import Adjudicator.Pattern.Search
import Adjudicator.TestRun.Basic
import Adjudicator.TestRun.Runner
import Adjudicator.Text.Lines

/-!
# Console output of test runners

The outcomes of tests are read from what a runner prints, line by line. A failure's message is a
block of lines behind a header; lines of a block are no headers themselves, so headers are looked
for on every line.
-/

namespace Adjudicator.Console

open Text Pattern

/-- A line of output. -/
abbrev Line :=
  List Char

/-- An outcome with a trimmed name. -/
def outcome (name : List Char) (status : TestStatus) : TestOutcome :=
  { name := String.ofList (trim name), status }

/-- The trimmed lines up to the first that `stop` holds for, without blank lines around them. -/
def block (stop : Line → Bool) (ls : List Line) : List Char :=
  trim (joinLines (((ls.takeWhile fun l => !stop l).map trim).dropWhile List.isEmpty))

/-- A text as a message, unless it is empty. -/
def message? (s : List Char) : Option String :=
  if s.isEmpty then none else some (String.ofList s)

/-- Whether a line begins the trace of a failure. -/
def isTrace (l : Line) : Bool :=
  "at ".toList.isPrefixOf (trimStart l)

/-- Gives a message to the first failed outcome of a name, unless it has one. -/
def attach (name message : List Char) : List TestOutcome → List TestOutcome
  | [] => []
  | o :: rest =>
    if o.status = .failed && TestRun.namesMatch o.name.toList name then
      { o with message := some (o.message.getD (String.ofList message)) } :: rest
    else o :: attach name message rest

/-- Gives a message that is not blank to the first failed outcome of a name. -/
def attachMessage (name message : List Char) (outcomes : List TestOutcome) : List TestOutcome :=
  if blank message then outcomes else attach name message outcomes

/-- One of several characters, given by their code points. -/
def oneOfPoints (points : List Nat) : Pattern :=
  one fun c => points.contains c.toNat

/-- The marks of passed tests. -/
def passedMarks : List Nat :=
  [0x2713, 0x221A, 0x2714]

/-- The marks of failed tests. -/
def failedMarks : List Nat :=
  [0x2715, 0xD7, 0x2717, 0x2716]

/-- The mark of skipped tests. -/
def skippedMarks : List Nat :=
  [0x25CB]

/-- A test with its mark and duration. -/
def markedResult : Pattern :=
  textStart ++ gap ++ group 1 (oneOfPoints (passedMarks ++ failedMarks ++ skippedMarks)) ++ space ++
    opt ("skipped" ++ space) ++ group 2 dot.plusLazy ++
    opt (space ++ "(" ++ group 3 digit.plus ++ gap ++ "ms)") ++ gap ++ textEnd

/-- The header of a failure, behind a bullet or a number. -/
def bulletHeader : Pattern :=
  textStart ++ gap ++ choice [oneOfPoints [0x25CF], digit.plus ++ ")"] ++ space ++
    group 1 dot.plusLazy ++ opt ":" ++ gap ++ textEnd

/-- A whole number of ASCII digits that fits 64 bits. -/
def count? (s : List Char) : Option Nat :=
  (Number.readNat? s).filter fun n => n < Nat.pow 2 64

/-- The outcome on a line with a mark. -/
def marked? (l : Line) : Option TestOutcome :=
  (markedResult.find? l).map fun m =>
    let mark := ((m.group 1).head?.map Char.toNat).getD 0
    let status :=
      if passedMarks.contains mark then TestStatus.passed
      else if skippedMarks.contains mark then .skipped
      else .failed
    { outcome (m.group 2) status with duration := (m.group? 3).bind count? }

/-- Adds the failures behind headers to outcomes. -/
def addBulletFailures (outcomes : List TestOutcome) : List Line → List TestOutcome
  | [] => outcomes
  | l :: rest =>
    match bulletHeader.find? l with
    | none => addBulletFailures outcomes rest
    | some m =>
      let name := m.group 1
      let text := block (fun l => bulletHeader.found l || isTrace l) rest
      let known := outcomes.any fun o => TestRun.namesMatch o.name.toList name
      let outcomes := if known then outcomes else outcomes ++ [outcome name .failed]
      addBulletFailures (attachMessage name text outcomes) rest

/-- The outcomes that runners of JavaScript print. -/
def ofScripts (ls : List Line) : List TestOutcome :=
  addBulletFailures (ls.filterMap marked?) ls

/-- A line of a short summary. -/
def summaryLine : Pattern :=
  textStart ++ group 1 (choice ["PASSED", "FAILED", "SKIPPED", "ERROR"]) ++ space ++
    group 2 (one fun c => !isBlank c).plusLazy ++ opt (space ++ "-" ++ space ++ group 3 dot.star) ++
    textEnd

/-- What precedes the first double colon of a name, or the whole name. -/
def firstPart (id : List Char) : List Char :=
  ((cutAt? [':', ':'] id).map Prod.fst).getD id

/-- What follows the last double colon of a name, or the whole name. -/
def finalPart (id : List Char) : List Char :=
  (firstPart id.reverse).reverse

/-- The outcome on a line of a short summary. -/
def summarized? (l : Line) : Option TestOutcome :=
  (summaryLine.find? (trimEnd l)).map fun m =>
    let status :=
      match String.ofList (m.group 1) with
      | "PASSED" => TestStatus.passed
      | "SKIPPED" => .skipped
      | _ => .failed
    let file := firstPart (m.group 2)
    { outcome (finalPart (m.group 2)) status with
      file := if file.contains '.' then some (String.ofList file) else none
      message := (m.group? 3).map fun s => String.ofList (trim s) }

/-- The outcomes that the runner of Python prints. -/
def ofSummary (ls : List Line) : List TestOutcome :=
  ls.filterMap summarized?

/-- The start of a test. -/
def runLine : Pattern :=
  textStart ++ "=== RUN" ++ space ++ group 1 (one fun c => !isBlank c).plus

/-- The end of a test. -/
def endLine : Pattern :=
  textStart ++ gap ++ "--- " ++ group 1 (choice ["PASS", "FAIL", "SKIP"]) ++ ": " ++
    group 2 (one fun c => !isBlank c).plus ++ " (" ++
    group 3 (one fun c => isDigit c || c == '.').plus ++ "s)"

/-- What started tests have printed, the newest test first and each with its newest line first. -/
abbrev Logs :=
  List (List Char × List Line)

/-- Adds a line to what the newest test has printed. -/
def addLog (line : Line) : Logs → Logs
  | [] => []
  | (name, ls) :: rest => (name, line :: ls) :: rest

/-- What the newest test of a name has printed. -/
def logOf? (logs : Logs) (name : List Char) : Option String :=
  (logs.lookup name).bind fun ls => message? (joinLines ls.reverse)

/-- The outcome at the end of a test. -/
def ended (logs : Logs) (m : Match) : TestOutcome :=
  let status :=
    match String.ofList (m.group 1) with
    | "PASS" => TestStatus.passed
    | "SKIP" => .skipped
    | _ => .failed
  let seconds := Number.readFloat? (m.group 3)
  { outcome (m.group 2) status with
    duration := seconds.map fun s => Number.toUnsigned64 (s * 1000.0)
    message := if status = .failed then logOf? logs (m.group 2) else none }

/-- The outcomes that the runner of Go prints. -/
def ofRuns (logs : Logs) : List Line → List TestOutcome
  | [] => []
  | l :: rest =>
    match runLine.find? l with
    | some m => ofRuns ((m.group 1, []) :: logs) rest
    | none =>
      match endLine.find? l with
      | some m => ended logs m :: ofRuns logs rest
      | none =>
        if "    ".toList.isPrefixOf l then ofRuns (addLog (trim l) logs) rest
        else ofRuns logs rest

/-- A test with its result. -/
def resultLine : Pattern :=
  textStart ++ "test " ++ group 1 (one fun c => !isBlank c).plus ++ " ... " ++
    group 2 (choice ["ok", "FAILED", "ignored"])

/-- The header of what a failed test has printed. -/
def printedHeader : Pattern :=
  textStart ++ "---- " ++ group 1 (one fun c => !isBlank c).plus ++ " stdout ----" ++ textEnd

/-- The outcome on a line with a result. -/
def resulted? (l : Line) : Option TestOutcome :=
  (resultLine.find? l).map fun m =>
    outcome (m.group 1)
      (match String.ofList (m.group 2) with
      | "ok" => .passed
      | "ignored" => .skipped
      | _ => .failed)

/-- Whether a line ends what a failed test has printed. -/
def endsPrinted (l : Line) : Bool :=
  printedHeader.found l || trim l == "failures:".toList || "note: run with".toList.isPrefixOf l

/-- Gives what failed tests have printed to their outcomes. -/
def addPrinted (outcomes : List TestOutcome) : List Line → List TestOutcome
  | [] => outcomes
  | l :: rest =>
    match printedHeader.find? l with
    | some m => addPrinted (attachMessage (m.group 1) (block endsPrinted rest) outcomes) rest
    | none => addPrinted outcomes rest

/-- The outcomes that the runner of Rust prints. -/
def ofResults (ls : List Line) : List TestOutcome :=
  addPrinted (ls.filterMap resulted?) ls

/-- A failure with its class, method and message. -/
def errorLine : Pattern :=
  textStart ++ "[ERROR]" ++ space ++ group 1 word ++ "." ++ group 2 word ++
    opt (":" ++ group 3 digit.plus) ++ space ++ group 4 dot.star ++ textEnd

/-- A test of a class with its result. -/
def taskLine : Pattern :=
  textStart ++ group 1 word ++ " > " ++ group 2 word ++ "()" ++ space ++
    group 3 (choice ["PASSED", "FAILED", "SKIPPED"])

/-- Whether a name is that of a class of tests. -/
def isTestClass (name : List Char) : Bool :=
  "Test".toList.isSuffixOf name || "Tests".toList.isSuffixOf name || "Test".toList.isPrefixOf name

/-- Whether a line ends the message of a failed test. -/
def endsMessage (l : Line) : Bool :=
  l.head? != some ' ' || isTrace l

/-- The outcomes that the runners of Java print, behind those already read. -/
def ofTasks (done : List TestOutcome) : List Line → List TestOutcome
  | [] => done
  | l :: rest =>
    match taskLine.find? l with
    | some m =>
      let status :=
        match String.ofList (m.group 3) with
        | "PASSED" => TestStatus.passed
        | "SKIPPED" => .skipped
        | _ => .failed
      let message := if status = .failed then message? (block endsMessage rest) else none
      ofTasks (done ++ [{ outcome (m.group 2) status with message }]) rest
    | none =>
      match errorLine.find? l with
      | some m =>
        let o := { outcome (m.group 2) .failed with
          message := some (String.ofList (trim (m.group 4))) }
        if isTestClass (m.group 1) && done.all fun d => d.name != o.name then
          ofTasks (done ++ [o]) rest
        else ofTasks done rest
      | none => ofTasks done rest

/-- A test with its result and duration. -/
def statusLine : Pattern :=
  textStart ++ gap ++ group 1 (choice ["Passed", "Failed", "Skipped"]) ++ space ++
    group 2 (one fun c => !isBlank c).plus ++
    opt (space ++ "[" ++ group 3 (one fun c => isDigit c || c == '.').plus ++ gap ++ opt "m" ++
      "s]")

/-- Whether a line announces the message of a failure. -/
def announcesMessage (l : Line) : Bool :=
  trim l == "Error Message:".toList

/-- The message of a failed test in the lines behind it. -/
def announced (ls : List Line) : List Char :=
  match ls.dropWhile fun l => !(announcesMessage l || statusLine.found l) with
  | l :: rest =>
    if announcesMessage l then
      block (fun l => trim l == "Stack Trace:".toList || statusLine.found l) rest
    else []
  | [] => []

/-- The outcomes that the runner of C# prints. -/
def ofStatuses : List Line → List TestOutcome
  | [] => []
  | l :: rest =>
    match statusLine.find? l with
    | none => ofStatuses rest
    | some m =>
      let status :=
        match String.ofList (m.group 1) with
        | "Passed" => TestStatus.passed
        | "Skipped" => .skipped
        | _ => .failed
      { outcome (m.group 2) status with
        duration := ((m.group? 3).bind Number.readFloat?).map Number.toUnsigned64
        message := if status = .failed then message? (announced rest) else none } ::
        ofStatuses rest

/-- The outcomes that a runner prints. -/
def outcomes (runner : Runner) (output : List Char) : List TestOutcome :=
  let ls := lines output
  match runner with
  | .jest | .vitest | .mocha => ofScripts ls
  | .pytest => ofSummary ls
  | .goTest => ofRuns [] ls
  | .cargo => ofResults ls
  | .maven | .gradle => ofTasks [] ls
  | .dotnet => ofStatuses ls

end Adjudicator.Console
