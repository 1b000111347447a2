import Adjudicator.Divergence.Cascade
import Adjudicator.History.Archive
import Adjudicator.Progress
import Adjudicator.Report.Basic
import Adjudicator.Report.Description
import Adjudicator.TestRun.Basic
import Adjudicator.Verdict.Screening

/-!
# Assessing pairs

A pair is assessed in this order: a blank body ends the assessment, and so does a failure that says
nothing about the code. Then a divergence is searched for, test and method are described, the
histories are looked up and the verdict is determined. Assessments may end in any order, and one
that breaks off leaves its pair with a verdict that says so: reports are gathered with the positions
of their pairs, and put in order at the end.
-/

namespace Adjudicator

/-- What an assessment can turn to. -/
structure Assessor (m : Type → Type) where
  /-- The assistant. -/
  assistant : Option (Assistant m) := none
  /-- The histories of files. -/
  archive : Archive m
  /-- A run of the tests. -/
  run : Option TestRun := none
  /-- Number of commits that are looked up for a file. -/
  historyLimit : Nat
  /-- The parsers of the languages that are read by a grammar. -/
  grammars : Outline.Grammars := .usual

namespace Assessor

/-- What is known about a pair that was not searched for a divergence. -/
def unsearched (pair : Pair) (confidence : Float) (failure : Option String) : Analysis :=
  { pair, failure
    detection :=
      { found := false, divergence := none, confidence, details := "Divergence detection skipped"
        stage := .nothing } }

/-- The report of a verdict without a search. -/
def screened (pair : Pair) (failure : Option String) (v : Verdict) : PairReport :=
  .of (unsearched pair v.confidence failure) v

/-- The report of a pair whose assessment broke off. -/
def unfinished (pair : Pair) : PairReport :=
  screened pair none (Screening.unfinished pair)

/-- The message of the failure of a pair's test. -/
def failureOf? {m : Type → Type} (a : Assessor m) (pair : Pair) : Option String :=
  a.run.bind fun run => run.failureOf? pair.test.name

/-- The report of a pair that needs no search. -/
def early? (pair : Pair) (failure : Option String) : Option PairReport :=
  match Screening.insufficient? pair with
  | some v => some (screened pair none v)
  | none =>
    (failure.bind fun message => Screening.failure? message.toList pair).map
      (screened pair failure)

variable {m : Type → Type} [Monad m]

/-- What test and method do in words: those of the assistant where it answers, and else those that
can be read off the code. -/
def describe (a : Assessor m) (pair : Pair) : m (Expectation × Behavior) := do
  let expected := Description.ofTest pair.test
  let done := Description.ofMethod pair.method
  match a.assistant with
  | none => return (expected, done)
  | some assistant =>
    if ← assistant.available then
      let expectation ← assistant.expectation pair.test.body
      let behavior ← assistant.behavior pair.method.body
      return (expectation.toOption.getD expected, behavior.toOption.getD done)
    else return (expected, done)

/-- What the histories of a pair say. -/
def history (a : Assessor m) (pair : Pair) : m PairHistory :=
  a.archive.pairHistory pair.test.file pair.method.file pair.method.line
    (max pair.method.endLine pair.method.line) a.historyLimit

/-- The report of a pair, where `file` is the text of the method's file. -/
def assess (a : Assessor m) (pair : Pair) (file : Option String) : m PairReport := do
  let failure := a.failureOf? pair
  match early? pair failure with
  | some report => return report
  | none =>
    let stages := Cascade.strategies a.assistant a.grammars
    let detection ← Cascade.detect stages { pair, failure, file }
    let (expectation, behavior) ← a.describe pair
    let history ← a.history pair
    let analysis : Analysis := { pair, expectation, behavior, detection, history, failure }
    return .of analysis (← Verdict.determine a.assistant analysis)

/-- How the assessment of a pair ended. -/
inductive Ending where
  /-- With a report on the pair at a position. -/
  | finished (position : Nat) (report : PairReport)
  /-- It broke off, which does not say where. -/
  | broken
deriving Repr, Inhabited

/-- The assessment of the pair at a position, which may break off. -/
def attempt (a : Assessor (OptionT m)) (files : Path → Option String) (position : Nat)
    (pair : Pair) : m Ending := do
  match ← (a.assess pair (files pair.method.file)).run with
  | some report => return .finished position report
  | none => return .broken

end Assessor

/-- What is known while the assessments of pairs end one after the other. -/
structure Gathering where
  /-- The pairs without a report, with their positions. -/
  unfinished : List (Nat × Pair)
  /-- The reports with their positions, in the order in which they came. -/
  reports : List (Nat × PairReport) := []
  /-- How far the work is. -/
  progress : Progress
deriving Repr, Inhabited

namespace Gathering

/-- What is known before any assessment has ended. -/
def start (pairs : List Pair) (before : Progress) : Gathering :=
  { unfinished := pairs.zipIdx.map Prod.swap
    progress := (before.enterPhase .pairAnalysis).start 0 pairs.length }

/-- Takes note of an ending. -/
def join (g : Gathering) (e : Assessor.Ending) : Gathering :=
  match e with
  | .finished i report =>
    { unfinished := g.unfinished.filter fun entry => entry.1 != i
      reports := g.reports ++ [(i, report)]
      progress := g.progress.finishOne }
  | .broken => { g with progress := g.progress.finishOne }

/-- The reports in the order of the pairs, where `late` are the pairs without one. -/
def close (g : Gathering) (late : List (Nat × Pair)) : List PairReport :=
  let all := g.reports ++ late.map fun entry => (entry.1, Assessor.unfinished entry.2)
  (all.mergeSort fun a b => a.1 ≤ b.1).map Prod.snd

end Gathering

/-- The reports of pairs by assessments that may break off, where `files` gives the texts of
files. -/
def Assessor.assessAll {m : Type → Type} [Monad m] (a : Assessor (OptionT m))
    (files : Path → Option String) (pairs : List Pair) : m (List PairReport) := do
  let endings ← pairs.zipIdx.mapM fun (pair, i) => a.attempt files i pair
  let g := endings.foldl Gathering.join (.start pairs {})
  return g.close g.unfinished

end Adjudicator
