import Adjudicator.History.Commit
import Adjudicator.Suite.Path

/-!
# Archives

An archive knows the commits of a path, newest first, and the origins of its lines. A path without
a history has no commits. The history of a pair joins the commits of both files, each once and
newest first, and keeps as many as were asked for of each file.
-/

namespace Adjudicator

open Json

/-- An archive whose answers are actions of a monad. -/
structure Archive (m : Type → Type) where
  /-- The newest commits of a path, newest first, as many as asked for. -/
  commits : Path → Nat → m (List Commit)
  /-- The origins of the lines of a path between two line numbers. -/
  origins : Path → Nat → Nat → m (List Origin)

/-- Which of two paths changed last. -/
inductive Newer where
  | first
  | second
  | same
  /-- One of them has no history. -/
  | unknown
deriving DecidableEq, Repr, Inhabited

/-- The answer's name in data. -/
def Newer.name : Newer → String
  | first => "FIRST"
  | second => "SECOND"
  | same => "SAME"
  | unknown => "UNKNOWN"

/-- Which of two dates is later. -/
def Newer.ofDates : Option Instant → Option Instant → Newer
  | some a, some b => if b < a then first else if a < b then second else same
  | _, _ => unknown

/-- The last changes of two paths. -/
structure LastChanges where
  /-- The date of the first path's last change. -/
  first : Option Instant
  /-- The date of the second path's last change. -/
  second : Option Instant
deriving DecidableEq, Repr, Inhabited

/-- The record of two last changes. -/
def LastChanges.toJson (c : LastChanges) : Json :=
  obj [("moreRecent", str (Newer.ofDates c.first c.second).name),
    ("dateA", option Instant.toJson c.first), ("dateB", option Instant.toJson c.second)]

/-- Commits, the first of each hash. -/
def Commit.distinct (commits : List Commit) : List Commit :=
  commits.foldl (fun known c => if known.any fun k => k.hash == c.hash then known else known ++ [c])
    []

/-- Commits, the newest first; of one date in the given order. -/
def Commit.newestFirst (commits : List Commit) : List Commit :=
  commits.mergeSort fun a b => !(a.date < b.date : Bool)

/-- The newest commits of two histories. -/
def Commit.recent (limit : Nat) (test source : List Commit) : List Commit :=
  (newestFirst (distinct (test ++ source))).take limit

namespace Archive

variable {m : Type → Type} [Monad m]

/-- The archive of a project without any history. -/
def nothing : Archive m :=
  { commits := fun _ _ => return [], origins := fun _ _ _ => return [] }

/-- The archive among actions that may break off. -/
def lift (a : Archive m) : Archive (OptionT m) :=
  { commits := fun p limit => OptionT.lift (a.commits p limit)
    origins := fun p first last => OptionT.lift (a.origins p first last) }

/-- The newest commit of a path. -/
def last? (a : Archive m) (p : Path) : m (Option Commit) := do
  return (← a.commits p 1).head?

/-- The last changes of two paths. -/
def lastChanges (a : Archive m) (p q : Path) : m LastChanges := do
  let first ← a.last? p
  let second ← a.last? q
  return ⟨first.map Commit.date, second.map Commit.date⟩

/-- What the histories of a test and a method say, with the origins of the method's lines. -/
def pairHistory (a : Archive m) (test source : Path) (firstLine lastLine limit : Nat) :
    m PairHistory := do
  let ofTest ← a.commits test limit
  let ofSource ← a.commits source limit
  let origins ← a.origins source firstLine lastLine
  return { test := ofTest.head?, source := ofSource.head?,
           recent := Commit.recent limit ofTest ofSource, origins }

end Archive

/-- Commits and origins that are known for each path. -/
structure KnownHistory where
  /-- The commits with their paths. -/
  commits : List (Path × Commit) := []
  /-- The origins of lines under their paths. -/
  origins : List (Path × List Origin) := []
deriving Repr, Inhabited

namespace KnownHistory

/-- The newest known commits of a path. -/
def commitsOf (h : KnownHistory) (p : Path) (limit : Nat) : List Commit :=
  (Commit.newestFirst ((h.commits.filter fun c => Path.same c.1 p).map Prod.snd)).take limit

/-- The known origins of lines of a path. -/
def originsOf (h : KnownHistory) (p : Path) (firstLine lastLine : Nat) : List Origin :=
  (((h.origins.find? fun o => Path.same o.1 p).map Prod.snd).getD []).filter fun o =>
    firstLine ≤ o.line && o.line ≤ lastLine

end KnownHistory

end Adjudicator
