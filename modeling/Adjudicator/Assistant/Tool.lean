import Adjudicator.Assistant.Basic
import Adjudicator.Program.Basic
import Adjudicator.Settings.Basic
import Adjudicator.Text.Blank

/-!
# Tools as assistants

A tool is started with its own arguments and the prompt behind `-p`, and what it prints is its
reply. A failed attempt is repeated as often as the settings allow, with a pause before each
repetition; a tool that is not there is not asked again.
-/

namespace Adjudicator.Assistant

open Text

variable {m : Type → Type} [Monad m]

/-- The error of a tool that ended without success. -/
def failed (command : String) (finished : Finished) : AssistantError :=
  .process (s!"{command} exited with exit status: {finished.status}: " ++
    String.ofList (trim finished.errors))

/-- The reply of a finished tool. -/
def replyOf (command : String) (finished : Finished) : Except AssistantError String :=
  let reply := trim finished.output
  if finished.status ≠ 0 then .error (failed command finished)
  else if reply.isEmpty then .error .emptyResponse
  else .ok (String.ofList reply)

/-- One attempt to get a reply. -/
def askOnce (programs : Programs m) (s : AssistantSettings) (prompt : String) :
    m (Except AssistantError String) := do
  match ← programs.start "." s.command (s.arguments ++ ["-p", prompt]) with
  | none => return .error (.notInstalled s.command)
  | some finished => return replyOf s.command finished

/-- Whether an outcome of an attempt is worth another one. -/
def worthRepeating : Except AssistantError String → Bool
  | .ok _ => false
  | .error e => e.isRetryable

/-- Repeats an attempt while its outcome is worth it and repetitions are left. `made` attempts were
made before, and `pause` waits for some milliseconds. -/
def repeating (attempt : m (Except AssistantError String)) (pause : Nat → m Unit) (r : Retry)
    (made : Nat) : Nat → m (Except AssistantError String)
  | 0 => attempt
  | left + 1 => do
    let outcome ← attempt
    if worthRepeating outcome then
      pause (r.delay (made + 1))
      repeating attempt pause r (made + 1) left
    else return outcome

/-- Makes as many attempts as are allowed, and at least one. -/
def persist (attempt : m (Except AssistantError String)) (pause : Nat → m Unit) (r : Retry) :
    m (Except AssistantError String) :=
  repeating attempt pause r 0 (r.attempts - 1)

/-- The assistant that a tool is. -/
def ofTool (programs : Programs m) (pause : Nat → m Unit) (s : AssistantSettings) (r : Retry) :
    Assistant m :=
  { available := programs.has s.command
    ask := fun prompt => persist (askOnce programs s prompt) pause r }

/-- The assistant of some settings, when it is used and there. -/
def ofSettings (programs : Programs m) (pause : Nat → m Unit) (s : Settings) :
    m (Option (Assistant m)) := do
  let tool := ofTool programs pause s.assistant s.retry
  if s.assistant.enabled then
    if ← tool.available then return some tool else return none
  else return none

end Adjudicator.Assistant
