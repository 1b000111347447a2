import Adjudicator.Suite.Path

/-!
# Progress

What is being done at a moment, for messages about crashes: the phase of the analysis, the file and
the test at hand, and how many pairs are done. A setting lasts until it is released, and then what
was there before is there again.
-/

namespace Adjudicator

/-- A phase of the analysis. -/
inductive Phase where
  | fileDiscovery
  | parsing
  | correlation
  | pairAnalysis
  | mutationAnalysis
  | outputGeneration
deriving DecidableEq, Repr, Inhabited

namespace Phase

/-- All phases. -/
def all : List Phase :=
  [fileDiscovery, parsing, correlation, pairAnalysis, mutationAnalysis, outputGeneration]

/-- The phase's name. -/
def name : Phase → String
  | fileDiscovery => "file_discovery"
  | parsing => "parsing"
  | correlation => "correlation"
  | pairAnalysis => "pair_analysis"
  | mutationAnalysis => "mutation_analysis"
  | outputGeneration => "output_generation"

end Phase

/-- What is being done. -/
structure Activity where
  /-- The phase. -/
  phase : Option Phase := none
  /-- The file at hand. -/
  file : Option Path := none
  /-- The test at hand. -/
  test : Option String := none
deriving DecidableEq, Repr, Inhabited

/-- One field of an activity with its new value. -/
inductive Setting where
  | phase (p : Phase)
  | file (p : Path)
  | test (name : String)
deriving DecidableEq, Repr

/-- An activity with a field set. -/
def Setting.apply (s : Setting) (a : Activity) : Activity :=
  match s with
  | phase p => { a with phase := some p }
  | file p => { a with file := some p }
  | test name => { a with test := some name }

/-- What is being done, what the settings that last will bring back, and how far the work is. -/
structure Progress where
  /-- What is being done. -/
  current : Activity := {}
  /-- What was being done before each setting that lasts, the newest first. -/
  saved : List Activity := []
  /-- Number of finished pairs. -/
  done : Nat := 0
  /-- Number of pairs. -/
  total : Nat := 0
deriving DecidableEq, Repr, Inhabited

namespace Progress

/-- Sets a field until the setting is released. -/
def enter (s : Setting) (p : Progress) : Progress :=
  { p with current := s.apply p.current, saved := p.current :: p.saved }

/-- Releases the newest setting, when there is one. -/
def leave (p : Progress) : Progress :=
  match p.saved with
  | [] => p
  | a :: rest => { p with current := a, saved := rest }

/-- Sets the phase for good. -/
def enterPhase (phase : Phase) (p : Progress) : Progress :=
  { p with current := { p.current with phase := some phase } }

/-- Sets how far the work is. -/
def start (done total : Nat) (p : Progress) : Progress :=
  { p with done, total }

/-- Counts a finished pair. -/
def finishOne (p : Progress) : Progress :=
  { p with done := p.done + 1 }

end Progress

/-- How much is logged for a number of requests for more. -/
def logLevel (requests : Nat) : String :=
  match requests with
  | 0 => "warn"
  | 1 => "info"
  | _ => "debug"

end Adjudicator
