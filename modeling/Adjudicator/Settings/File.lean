import Adjudicator.Folder.Basic
import Adjudicator.Settings.Basic
import Adjudicator.Toml.Reader

/-!
# Settings files

Settings stand in a file of the working directory or of the nearest directory above it that has
one, or in a file of the user. What the file does not say keeps its own value; a name that is not
known is ignored, and a value of the wrong kind makes the whole file unreadable.
-/

namespace Adjudicator

/-- Why a settings file is of no use. -/
inductive SettingsError where
  /-- It cannot be read. -/
  | unreadable
  /-- What it says makes no sense. -/
  | faulty (fault : SettingsFault)
deriving Repr, Inhabited

namespace Settings

/-- The name of settings files. -/
def fileName : Path :=
  ".testverdict.toml"

/-- The error in words. -/
def errorMessage : SettingsError → String
  | .unreadable => "Failed to parse " ++ fileName
  | .faulty f => f.message

/-- A part of a structure; its own value when nothing is said. -/
def part {α : Type} (value : Toml) (position : Nat) (name : String) (otherwise : α)
    (decode : Toml → Option α) : Option α :=
  match value.part? position name with
  | none => some otherwise
  | some v => decode v

/-- A truth value. -/
def truth? : Toml → Option Bool
  | .truth b => some b
  | _ => none

/-- A text. -/
def text? : Toml → Option String
  | .text s => some s
  | _ => none

/-- A list of texts. -/
def texts? : Toml → Option (List String)
  | .list items => items.mapM text?
  | _ => none

/-- A whole number of so many bits without a sign. -/
def natural? (bits : Nat) : Toml → Option Nat
  | .whole n => if 0 ≤ n ∧ n < (Nat.pow 2 bits : Int) then some n.toNat else none
  | _ => none

/-- A double; a whole number of at most 64 bits counts as one. -/
def double? : Toml → Option Float
  | .double x => some x
  | .whole n =>
    if -(Nat.pow 2 63 : Int) ≤ n ∧ n < (Nat.pow 2 64 : Int) then some (Number.ofInt n) else none
  | _ => none

/-- Whether a value is empty, as the content of a named choice. -/
def isEmptyContent : Toml → Bool
  | .list [] | .inline [] | .table _ [] => true
  | _ => false

/-- A way to grow, by its name alone or by its name with nothing in it. -/
def backoff? : Toml → Option Backoff
  | .text s => Backoff.all.find? fun b => b.name == s
  | .inline [(s, v)] | .table _ [(s, v)] =>
    if isEmptyContent v then Backoff.all.find? fun b => b.name == s else none
  | _ => none

/-- Settings of the assistant. -/
def assistant? (v : Toml) : Option AssistantSettings := do
  guard v.hasParts
  let own : AssistantSettings := {}
  some
    { enabled := ← part v 0 "enabled" own.enabled truth?
      command := ← part v 1 "command" own.command text?
      arguments := ← part v 2 "extra_args" own.arguments texts?
      timeout := ← part v 3 "timeout_seconds" own.timeout (natural? 64)
      concurrent := ← part v 4 "max_concurrent" own.concurrent (natural? 64)
      perSecond := ← part v 5 "requests_per_second" own.perSecond (natural? 32) }

/-- How requests are repeated. -/
def retry? (v : Toml) : Option Retry := do
  guard v.hasParts
  let own : Retry := {}
  some
    { attempts := ← part v 0 "max_attempts" own.attempts (natural? 32)
      base := ← part v 1 "base_delay_ms" own.base (natural? 64)
      backoff := ← part v 2 "strategy" own.backoff backoff?
      bound := ← part v 3 "max_delay_ms" own.bound (natural? 64) }

/-- How sure a pairing has to be. -/
def confidence? (v : Toml) : Option Float := do
  guard v.hasParts
  part v 0 "min_confidence" ({} : Settings).minConfidence double?

/-- Number of commits that are looked up. -/
def historyLimit? (v : Toml) : Option Nat := do
  guard v.hasParts
  part v 0 "history_limit" ({} : Settings).historyLimit (natural? 64)

/-- The settings of a document. -/
def ofToml? (v : Toml) : Option Settings := do
  let own : Settings := {}
  some
    { assistant := ← part v 0 "ai" own.assistant assistant?
      retry := ← part v 1 "retry" own.retry retry?
      minConfidence := ← part v 2 "correlation" own.minConfidence confidence?
      historyLimit := ← part v 3 "git" own.historyLimit historyLimit? }

/-- The settings of a file's text. -/
def ofText (s : String) : Except SettingsError Settings :=
  match (Toml.parse? s).bind ofToml? with
  | none => .error .unreadable
  | some settings =>
    match settings.fault? with
    | some f => .error (.faulty f)
    | none => .ok settings

/-- The greatest number of directories that are searched, the working directory included. -/
def searchDepth : Nat :=
  10

/-- Where settings files are searched: in the working directory and in those above it. -/
def places : List Path :=
  (List.range searchDepth).map fun n => String.join (List.replicate n "../") ++ fileName

/-- The settings of a folder: those of the nearest file, or those of the user's own file when there
is none. A file that is of no use counts as one that says nothing. -/
def ofFolder (f : Folder) (users : Option Path) : Settings :=
  let nearest := (places.find? f.isFile).or users
  match (nearest.bind f.read?).map ofText with
  | some (.ok settings) => settings
  | _ => {}

/-- A text in quotes, for texts without quotes and control characters. -/
def quoted (s : String) : String :=
  "\"" ++ s ++ "\""

/-- A line of a settings file. -/
def entry (name value : String) : String :=
  s!"{name} = {value}\n"

/-- The text of a file with the settings' own values. -/
def template : String :=
  let s : Settings := {}
  let a := s.assistant
  let r := s.retry
  let confidence := String.ofList (Number.plain s.minConfidence)
  "# testverdict configuration\n\n[ai]\n" ++
    entry "enabled" (toString a.enabled) ++ entry "command" (quoted a.command) ++
    entry "extra_args" "[]" ++ entry "timeout_seconds" (toString a.timeout) ++
    entry "max_concurrent" (toString a.concurrent) ++
    entry "requests_per_second" (toString a.perSecond) ++ "\n[retry]\n" ++
    entry "max_attempts" (toString r.attempts) ++ entry "base_delay_ms" (toString r.base) ++
    entry "strategy" (quoted r.backoff.name) ++ entry "max_delay_ms" (toString r.bound) ++
    "\n[correlation]\n" ++ entry "min_confidence" confidence ++ "\n[git]\n" ++
    entry "history_limit" (toString s.historyLimit)

end Settings

end Adjudicator
