import Adjudicator.Assistant.Basic
import Adjudicator.Folder.Access

/-!
# Errors

What can go wrong outside the analysis itself. An error with a context keeps its words and loses
what it was.
-/

namespace Adjudicator

/-- What went wrong. -/
inductive Error where
  /-- A file could not be used. -/
  | file (path : Path) (cause : FileCause)
  /-- A setting is wrong. -/
  | configuration (reason : String)
  /-- An assistant gave no answer. -/
  | assistant (cause : AssistantError)
  /-- A test runner could not be used. -/
  | runner (reason : String)
  /-- An error with what was being done. -/
  | inContext (context message : String)
deriving DecidableEq, Repr, Inhabited

namespace Error

/-- The error in words. -/
def message : Error → String
  | file path cause => s!"File system error: {path}: {cause.text}"
  | configuration reason => s!"Configuration error: {reason}"
  | assistant cause => cause.message
  | runner reason => s!"Test runner error: {reason}"
  | inContext context text => s!"{context}: {text}"

/-- The error in words, followed by what lies behind it. -/
def chain (e : Error) : List String :=
  match e with
  | file _ cause => [e.message, cause.text]
  | _ => [e.message]

/-- The error with what was being done. -/
def within (e : Error) (context : String) : Error :=
  inContext context e.message

/-- Whether the error is a missing file. -/
def isMissing : Error → Bool
  | file _ cause => cause.missing
  | _ => false

end Error

end Adjudicator
