import Adjudicator.CommandLine.Commands

/-!
# The program

Performs a command on the files that can be seen from the working directory and from the paths that
are named. No programs are started and no histories are read here, so an analysis has neither an
assistant nor a run of tests nor commits to turn to.
-/

namespace Adjudicator.CommandLine

/-- The greatest depth of directories that are read. -/
def maxDepth : Nat :=
  64

/-- The text of a file as an entry; nothing when it is no text. -/
def entryOf (path : String) (t : Trail) : IO (List (Trail × Entry)) := do
  try return [(t, .file (← IO.FS.readFile path))] catch _ => return []

/-- The entries of a directory and below it, at most so deep. -/
def entriesOf : Nat → String → Trail → IO (List (Trail × Entry))
  | 0, _, _ => return []
  | depth + 1, path, t => do
    let found ← (← IO.FS.realPath path).readDir
    let entries ← found.toList.mapM fun entry => do
      let below := t ++ [entry.fileName.toList]
      let inner := Path.join path entry.fileName
      if ← entry.path.isDir then entriesOf depth inner below else entryOf inner below
    return (t, .directory) :: entries.flatten

/-- What is at a path, when there is anything. -/
def entriesAt (path : String) : IO (List (Trail × Entry)) := do
  let t := Folder.trail path
  try entriesOf maxDepth path t catch _ => entryOf path t

/-- The user's own settings file. -/
def usersSettings : IO (Option Path) := do
  let own ← IO.getEnv "XDG_CONFIG_HOME"
  let home ← IO.getEnv "HOME"
  let base := own.or (home.map fun h => Path.join h ".config")
  return base.map fun b => Path.join b "testverdict/config.toml"

/-- What is seen from the working directory, from where settings files are searched, and from the
paths that are named. -/
def visible (named : List String) : IO Folder := do
  let paths := "." :: Settings.places ++ (← usersSettings).toList ++ named
  return ⟨(← paths.eraseDups.mapM entriesAt).flatten⟩

/-- Writes a text to a file, and makes the directories on the way to it. -/
def storeFile (path : Path) (text : String) : IO (Except FileCause Unit) := do
  try
    match path.parent? with
    | some above => if !above.isEmpty then IO.FS.createDirAll above
    | none => pure ()
    return .ok (← IO.FS.writeFile path text)
  catch e => return .error ⟨false, toString e⟩

/-- Whether what is printed may be painted. -/
def mayPaint : IO Bool := do
  let refused := (← IO.getEnv "NO_COLOR").isSome || (← IO.getEnv "TERM") == some "dumb"
  return !refused && (← (← IO.getStdout).isTty)

/-- The surroundings of the program. -/
def surroundings (named : List String) : IO (Surroundings IO) := do
  return {
    directory := (← IO.currentDir).toString
    usersSettings := ← usersSettings
    folder := visible named
    store := storeFile
    print := IO.print
    colored := ← mayPaint
    programs := { has := fun _ => return false, start := fun _ _ _ => return none }
    pause := fun time => IO.sleep time.toUInt32
    archive := Archive.nothing }

/-- What is said about arguments that are not followed, and the status of the program. -/
def usage : UsageError → String × UInt32
  | .help => ("usage: testverdict (analyze | mutations) PATH... | init [--force]", 0)
  | .version => ("testverdict", 0)
  | _ => ("error: these arguments cannot be followed; try --help", 2)

end Adjudicator.CommandLine

open Adjudicator.CommandLine in
/-- Performs the command of the arguments. -/
def main (arguments : List String) : IO UInt32 := do
  match Command.ofArguments arguments with
  | .error e =>
    let (text, status) := usage e
    if status = 0 then IO.println text else IO.eprintln text
    return status
  | .ok command =>
    match ← (← surroundings arguments).perform command with
    | .ok () => return 0
    | .error e =>
      IO.eprintln ("Error: " ++ ": ".intercalate e.chain)
      return 1
