import Adjudicator.Error
import Adjudicator.Program.Basic
import Adjudicator.TestRun.Console

/-!
# Running tests

A project's tests are run by its own runner, and the outcomes are read off what it prints. A run
with failed tests is a run; only a runner that does not start is an error.
-/

namespace Adjudicator.Runner

variable {m : Type → Type} [Monad m]

/-- The error of a program that does not start. -/
def notStarted (program : String) : Error :=
  .runner s!"failed to start {program}: No such file or directory (os error 2)"

/-- A file as the runner in a directory sees it. -/
def fileFrom (root file : Path) : Path :=
  match root.below? file with
  | some parts => Path.ofComponents parts
  | none => file

/-- Runs the tests below a directory, all of them or those of one file. -/
def run (programs : Programs m) (runner : Runner) (root : Path) (file : Option Path) :
    m (Except Error TestRun) := do
  let narrowed := (file.map fun f => runner.fileArguments (fileFrom root f)).getD []
  match ← programs.start root runner.program (runner.arguments ++ narrowed) with
  | none => return .error (notStarted runner.program)
  | some finished =>
    let output := finished.output ++ finished.errors
    return .ok { outcomes := Console.outcomes runner output, output := String.ofList output }

end Adjudicator.Runner
