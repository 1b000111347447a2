import Adjudicator.Pattern.Build
import Adjudicator.Pattern.Search

/-!
# Intent of commits

A commit message that speaks of a fix announces the repair of an accident; any other change is
taken for intentional. A message is clear when it has a conventional start or names a ticket.
-/

namespace Adjudicator.Intent

open Pattern

/-- The start of a conventional message. -/
def conventionalStart : Pattern :=
  textStart ++ gap ++
    choice
      (["feat", "fix", "refactor", "update", "add", "implement", "improve", "enhance", "change",
        "modify", "perf", "style", "docs", "test", "chore", "build", "ci"].map anyCase) ++
    opt ("(" ++ (noneOf ")").star ++ ")") ++ opt "!" ++ ":" ++ blank

/-- The name of a ticket. -/
def ticket : Pattern :=
  let upper := one Text.isAsciiUpper
  boundary ++ upper ++ upper.plus ++ "-" ++ digit.plus ++ boundary

/-- Words that speak of a fix. -/
def fixWord : Pattern :=
  let word (s : String) (endings : List String) : Pattern :=
    anyCase s ++ opt (choice (endings.map anyCase))
  boundary ++
    choice
      [word "fix" ["es", "ed", "ing"], word "bug" ["s"], anyCase "typo", anyCase "oops",
        word "revert" ["s", "ed"], anyCase "hotfix", word "patch" ["es", "ed"], anyCase "bugfix",
        anyCase "workaround"] ++
    boundary

/-- Whether a message speaks of a fix. -/
def isFix (message : List Char) : Bool :=
  fixWord.found message

/-- Whether a message announces an intended change. -/
def isIntentional (message : List Char) : Bool :=
  !isFix message

/-- Whether a message has a conventional start or names a ticket. -/
def isClear (message : List Char) : Bool :=
  conventionalStart.found message || ticket.found message

end Adjudicator.Intent
