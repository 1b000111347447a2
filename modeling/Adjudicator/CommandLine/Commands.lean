import Adjudicator.Assistant.Tool
import Adjudicator.CommandLine.Arguments
import Adjudicator.Project.Workspace
import Adjudicator.Report.Rendering
import Adjudicator.Settings.File
import Adjudicator.TestRun.Execution

/-!
# Commands

What a command does with its surroundings, in this order: settings are read and overridden, the
assistant is looked for, the tests are run if that is asked for, the project is read and judged, and
the result is written. Tests that cannot be run and an assistant that is not there are no errors.
-/

namespace Adjudicator.CommandLine

/-- What a command works with. -/
structure Surroundings (m : Type → Type) where
  /-- The working directory. -/
  directory : Path
  /-- The user's own settings file. -/
  usersSettings : Option Path := none
  /-- What is seen from the working directory. -/
  folder : m Folder
  /-- Writes a text to a file. -/
  store : Path → String → m (Except FileCause Unit)
  /-- Prints a text. -/
  print : String → m Unit
  /-- Whether what is printed may be painted. -/
  colored : Bool
  /-- The programs that can be started. -/
  programs : Programs m
  /-- Waits for some milliseconds. -/
  pause : Nat → m Unit
  /-- The histories of files. -/
  archive : Archive m

/-- Why a command failed. -/
inductive CommandError where
  /-- The settings file cannot be read. -/
  | noSettings (path : Path) (cause : FileCause)
  /-- The settings file is of no use. -/
  | badSettings (path : Path) (error : SettingsError)
  /-- The settings make no sense. -/
  | fault (fault : SettingsFault)
  /-- The project cannot be read; `work` says what for. -/
  | project (work : String) (error : Error)
  /-- A directory for the result cannot be made. -/
  | noDirectory (path : Path) (cause : FileCause)
  /-- A file cannot be written. -/
  | notWritten (path : Path) (cause : FileCause)
  /-- There is a settings file already. -/
  | settingsExist
deriving Repr, Inhabited

/-- The error in words, followed by what lies behind it. -/
def CommandError.chain : CommandError → List String
  | noSettings path cause => ["reading " ++ path, cause.text]
  | badSettings path error => [path ++ ": " ++ Settings.errorMessage error]
  | fault f => [f.message]
  | project work error => work :: error.chain
  | noDirectory path cause => ["creating " ++ path, cause.text]
  | notWritten path cause => ["writing " ++ path, cause.text]
  | settingsExist => ["Configuration file already exists. Use --force to overwrite."]

/-- The settings of a request: those of the named file, which has to be of use, and else those of
the folder. -/
def settingsFor (f : Folder) (users : Option Path) (r : Request) :
    Except CommandError Settings := do
  let settings ←
    match r.settings with
    | none => .ok (Settings.ofFolder f users)
    | some path =>
      match f.read path with
      | .error cause => .error (.noSettings path cause)
      | .ok text => (Settings.ofText text).mapError (.badSettings path)
  (settings.withConfidence r.minConfidence).mapError .fault

/-- The pairs of a request's project. -/
def workspaceFor (f : Folder) (r : Request) (s : Settings) (work : String) :
    Except CommandError Workspace :=
  (Workspace.prepare f r.paths r.exclude s.minConfidence).mapError (.project work)

namespace Surroundings

variable {m : Type → Type} [Monad m]

/-- Writes a result to a file, or prints it when no file is named. -/
def deliver (s : Surroundings m) (output : Option Path) (result : String) :
    m (Except CommandError Unit) := do
  match output with
  | none => return .ok (← s.print (result ++ "\n"))
  | some path =>
    let f ← s.folder
    let above := path.parent?.filter fun p => !p.isEmpty
    match above.bind fun dir => (f.refusal? dir).map (CommandError.noDirectory dir) with
    | some e => return .error e
    | none => return (← s.store path result).mapError (.notWritten path)

/-- A run of the tests of the project that a path lies in, when there is one. -/
def testRun (s : Surroundings m) (first : Path) : m (Option TestRun) := do
  let f ← s.folder
  let root := f.homeOf first
  match Runner.ofFolder? f root with
  | none => return none
  | some runner => return (← runner.run s.programs root none).toOption

/-- What judges the pairs of a project. -/
def assessor (s : Surroundings m) (r : Request) (settings : Settings) :
    m (Assessor (OptionT m)) := do
  let used := { settings.assistant with
    enabled := settings.assistant.enabled && !r.noAssistant }
  let assistant ← Assistant.ofSettings s.programs s.pause { settings with assistant := used }
  let run ← if r.runTests then s.testRun (r.paths.headD "") else pure none
  return { assistant := assistant.map Assistant.lift, archive := s.archive.lift, run
           historyLimit := settings.historyLimit }

/-- Judges the pairs of a project. -/
def analyze (s : Surroundings m) (r : Request) : m (Except CommandError Unit) := do
  match settingsFor (← s.folder) s.usersSettings r with
  | .error e => return .error e
  | .ok settings =>
    let assessor ← s.assessor r settings
    match workspaceFor (← s.folder) r settings "analysis failed" with
    | .error e => return .error e
    | .ok workspace =>
      let report ← workspace.assess assessor
      let kept := if r.detailed then report else report.brief
      s.deliver r.output (match r.format with
        | .json => kept.toJson.pretty 0
        | .table => kept.render (s.colored && r.output.isNone) s.directory)

/-- Reports the mutations of a project. -/
def mutations (s : Surroundings m) (r : Request) : m (Except CommandError Unit) := do
  let f ← s.folder
  let workspace := settingsFor f s.usersSettings r >>= fun settings =>
    workspaceFor f r settings "mutation analysis failed"
  match workspace with
  | .error e => return .error e
  | .ok workspace =>
    let found := workspace.mutations
    s.deliver r.output (match r.format with
      | .json => (Json.list PairMutations.toJson found).pretty 0
      | .table => PairMutations.render (s.colored && r.output.isNone) found)

/-- Makes a settings file with every setting's own value. -/
def init (s : Surroundings m) (force : Bool) : m (Except CommandError Unit) := do
  if !force && (← s.folder).has Settings.fileName then return .error .settingsExist
  else
    match ← s.store Settings.fileName Settings.template with
    | .error cause =>
      return .error (.notWritten (Path.join s.directory Settings.fileName) cause)
    | .ok () => return .ok (← s.print s!"Created {Settings.fileName} configuration file\n")

/-- Does what a command asks for. -/
def perform (s : Surroundings m) : Command → m (Except CommandError Unit)
  | .analyze r => s.analyze r
  | .mutations r => s.mutations r
  | .init force => s.init force

end Surroundings

end Adjudicator.CommandLine
