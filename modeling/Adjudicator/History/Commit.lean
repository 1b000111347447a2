import Adjudicator.History.Instant
import Adjudicator.Json.Basic
import Adjudicator.Text.Blank
import Adjudicator.Text.Lines

/-!
# Commits

A commit with its message, author and date, the line-by-line origin of a file, and what the two
histories of a pair say together.
-/

namespace Adjudicator

open Json Text

/-- A commit. -/
structure Commit where
  /-- What identifies the commit. -/
  hash : String
  /-- The whole message. -/
  message : String
  /-- The author's name. -/
  author : String
  /-- When it was committed. -/
  date : Instant
deriving DecidableEq, Repr, Inhabited

/-- The first line of the message. -/
def Commit.summary (c : Commit) : List Char :=
  trim ((stringLines c.message).headD [])

/-- Where a line of a file comes from. -/
structure Origin where
  /-- The line. -/
  line : Nat
  /-- The author of the line. -/
  author : String
  /-- The commit of the line. -/
  commit : String
  /-- When the line was committed. -/
  date : Option Instant
deriving DecidableEq, Repr, Inhabited

/-- What the histories of a test and a method say. -/
structure PairHistory where
  /-- The newest commit of the test's file. -/
  test : Option Commit := none
  /-- The newest commit of the method's file. -/
  source : Option Commit := none
  /-- The newest commits of both files. -/
  recent : List Commit := []
  /-- The origins of the method's lines. -/
  origins : List Origin := []
deriving DecidableEq, Repr, Inhabited

/-- The record of an instant. -/
def Instant.toJson (t : Instant) : Json :=
  str (String.ofList t.text)

/-- The instant of a record. -/
def Instant.ofJson? (j : Json) : Option Instant :=
  j.str?.bind fun s => ofText? s.toList

/-- The record of a commit. -/
def Commit.toJson (c : Commit) : Json :=
  obj [("hash", str c.hash), ("message", str c.message), ("author", str c.author),
    ("date", c.date.toJson)]

/-- The record of a line's origin. -/
def Origin.toJson (o : Origin) : Json :=
  obj [("line", nat o.line), ("author", str o.author), ("commit", str o.commit),
    ("date", option Instant.toJson o.date)]

/-- The origin of a record. -/
def Origin.ofJson? (j : Json) : Option Origin := do
  some
    { line := ← j.field? "line" nat?
      author := ← j.field? "author" str?
      commit := ← j.field? "commit" str?
      date := ← j.optional? "date" Instant.ofJson? }

/-- The record of a pair's history. -/
def PairHistory.toJson (h : PairHistory) : Json :=
  obj [("testCommit", option Commit.toJson h.test), ("sourceCommit", option Commit.toJson h.source),
    ("recentCommits", list Commit.toJson h.recent), ("blame", list Origin.toJson h.origins)]

end Adjudicator
