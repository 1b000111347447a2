import Adjudicator.Settings.Retry
import Adjudicator.Text.Lines

/-!
# Settings

What can be set: the assistant, how its requests are repeated, how sure a pairing has to be and how
many commits are looked up. Every setting has a value of its own when nothing is said.
-/

namespace Adjudicator

open Json

/-- Settings of the assistant. -/
structure AssistantSettings where
  /-- Whether it is used. -/
  enabled : Bool := true
  /-- The program to start. -/
  command : String := "claude"
  /-- Arguments before the prompt. -/
  arguments : List String := []
  /-- Seconds after which a request is given up. -/
  timeout : Nat := 30
  /-- Number of requests at the same time. -/
  concurrent : Nat := 2
  /-- Number of requests in a second. -/
  perSecond : Nat := 5
deriving DecidableEq, Repr, Inhabited

/-- All settings. -/
structure Settings where
  /-- Settings of the assistant. -/
  assistant : AssistantSettings := {}
  /-- How requests are repeated. -/
  retry : Retry := {}
  /-- How sure a pairing has to be. -/
  minConfidence : Float := 0.5
  /-- Number of commits that are looked up for a file. -/
  historyLimit : Nat := 10
deriving Repr, Inhabited

/-- Why settings make no sense. -/
inductive SettingsFault where
  /-- The confidence does not lie between zero and one. -/
  | confidence (value : Float)
  /-- No request is allowed at a time. -/
  | concurrent
  /-- No request is allowed in a second. -/
  | perSecond
  /-- No attempt is allowed. -/
  | attempts
deriving Repr, Inhabited

/-- The fault in words. -/
def SettingsFault.message : SettingsFault → String
  | confidence value =>
    "correlation.min_confidence must be within 0..=1, got " ++ String.ofList (Number.plain value)
  | concurrent => "ai.max_concurrent must be at least 1"
  | perSecond => "ai.requests_per_second must be at least 1"
  | attempts => "retry.max_attempts must be at least 1"

namespace Settings

/-- The first fault of settings. -/
def fault? (s : Settings) : Option SettingsFault :=
  if !(0.0 ≤ s.minConfidence && s.minConfidence ≤ 1.0) then some (.confidence s.minConfidence)
  else if s.assistant.concurrent = 0 then some .concurrent
  else if s.assistant.perSecond = 0 then some .perSecond
  else if s.retry.attempts = 0 then some .attempts
  else none

/-- The settings, when they make sense. -/
def checked (s : Settings) : Except SettingsFault Settings :=
  match s.fault? with
  | some f => .error f
  | none => .ok s

/-- The settings with another confidence, when they make sense. -/
def withConfidence (s : Settings) (confidence : Option Float) : Except SettingsFault Settings :=
  checked { s with minConfidence := confidence.getD s.minConfidence }

end Settings

/-- The record of the assistant's settings. -/
def AssistantSettings.toJson (a : AssistantSettings) : Json :=
  obj [("enabled", bool a.enabled), ("command", str a.command),
    ("extra_args", list str a.arguments), ("timeout_seconds", nat a.timeout),
    ("max_concurrent", nat a.concurrent), ("requests_per_second", nat a.perSecond)]

/-- The assistant's settings of a record; what is absent has its own value. -/
def AssistantSettings.ofJson? (j : Json) : Option AssistantSettings := do
  let own : AssistantSettings := {}
  some
    { enabled := ← j.fieldOr? "enabled" own.enabled bool?
      command := ← j.fieldOr? "command" own.command str?
      arguments := ← j.fieldOr? "extra_args" own.arguments (list? str?)
      timeout := ← j.fieldOr? "timeout_seconds" own.timeout nat?
      concurrent := ← j.fieldOr? "max_concurrent" own.concurrent nat?
      perSecond := ← j.fieldOr? "requests_per_second" own.perSecond nat? }

/-- The record of all settings. -/
def Settings.toJson (s : Settings) : Json :=
  obj [("ai", s.assistant.toJson), ("retry", s.retry.toJson),
    ("correlation", obj [("min_confidence", float s.minConfidence)]),
    ("git", obj [("history_limit", nat s.historyLimit)])]

end Adjudicator
