import Adjudicator.Suite.Path
import Adjudicator.Text.Blank
import Adjudicator.Json.Basic
import Adjudicator.Number.Written

/-!
# Assistants

An assistant answers prompts, or says why it does not. It may be a tool that has to be started, so
asking it and finding out whether it is there are actions of a monad.
-/

namespace Adjudicator

open Json

/-- Why an assistant gave no answer. -/
inductive AssistantError where
  /-- The tool is not on the search path. -/
  | notInstalled (command : String)
  /-- No answer came within so many milliseconds. -/
  | timeout (milliseconds : Nat)
  /-- The tool failed. -/
  | process (message : String)
  /-- The answer was empty. -/
  | emptyResponse
deriving DecidableEq, Repr, Inhabited

namespace AssistantError

/-- Thousandths with the digits that are needed. -/
def thousandths (n : Nat) : List Char :=
  let fraction := Text.dropEndWhile (· == '0') (Number.padZeros 3 (Number.natChars (n % 1000)))
  Number.natChars (n / 1000) ++ (if fraction.isEmpty then [] else '.' :: fraction)

/-- A span of time in its largest unit. -/
def durationText (milliseconds : Nat) : List Char :=
  if milliseconds = 0 then "0ns".toList
  else if milliseconds < 1000 then Number.natChars milliseconds ++ ['m', 's']
  else thousandths milliseconds ++ ['s']

/-- The error in words. -/
def message : AssistantError → String
  | notInstalled command => s!"AI tool '{command}' is not installed"
  | timeout after => "AI request timed out after " ++ String.ofList (durationText after)
  | process text => s!"AI process failed: {text}"
  | emptyResponse => "AI tool returned an empty response"

/-- Whether another attempt can help. -/
def isRetryable : AssistantError → Bool
  | notInstalled _ => false
  | _ => true

end AssistantError

/-- An assistant whose actions are those of a monad. -/
structure Assistant (m : Type → Type) where
  /-- Whether it can be asked at all. -/
  available : m Bool
  /-- Its answer to a prompt. -/
  ask : String → m (Except AssistantError String)

/-- The assistant among actions that may break off. -/
def Assistant.lift {m : Type → Type} [Monad m] (a : Assistant m) : Assistant (OptionT m) :=
  { available := OptionT.lift a.available, ask := fun prompt => OptionT.lift (a.ask prompt) }

/-- What a test expects. -/
structure Expectation where
  /-- The expectation in words. -/
  description : String := ""
  /-- Inputs of the test. -/
  inputs : List String := []
  /-- Expected results. -/
  outputs : List String := []
  /-- Expected errors. -/
  exceptions : List String := []
deriving DecidableEq, Repr, Inhabited

/-- What a method does. -/
structure Behavior where
  /-- The behaviour in words. -/
  description : String := ""
  /-- Effects besides the result. -/
  sideEffects : List String := []
  /-- What is returned. -/
  returns : String := ""
  /-- When errors are raised. -/
  errors : List String := []
deriving DecidableEq, Repr, Inhabited

/-- A proposed change. -/
structure Fix where
  /-- The change. -/
  suggestion : String
  /-- Why it helps. -/
  explanation : String
deriving DecidableEq, Repr, Inhabited

/-- A failed test with the code that a fix may change. -/
structure FixRequest where
  /-- Text of the test. -/
  test : String
  /-- Text of the method. -/
  source : String
  /-- What went wrong. -/
  error : String
  /-- The file to change. -/
  file : Path
deriving DecidableEq, Repr, Inhabited

/-- The record of an expectation. -/
def Expectation.toJson (e : Expectation) : Json :=
  obj [("description", str e.description), ("expectedInputs", list str e.inputs),
    ("expectedOutputs", list str e.outputs), ("expectedExceptions", list str e.exceptions)]

/-- The record of a behaviour. -/
def Behavior.toJson (b : Behavior) : Json :=
  obj [("description", str b.description), ("sideEffects", list str b.sideEffects),
    ("returnBehavior", str b.returns), ("errorConditions", list str b.errors)]

/-- The record of a fix. -/
def Fix.toJson (f : Fix) : Json :=
  obj [("suggestion", str f.suggestion), ("explanation", str f.explanation)]

end Adjudicator
