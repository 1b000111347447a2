import Adjudicator.Folder.Basic
import Adjudicator.Json.Reader

/-!
# Test runners

The programs that run a project's tests, told by the manifests in its folder. JavaScript comes
before the languages of the Java machine, and those before the rest.
-/

namespace Adjudicator

/-- A program that runs tests. -/
inductive Runner where
  | jest
  | vitest
  | mocha
  | maven
  | gradle
  | goTest
  | cargo
  | dotnet
  | pytest
deriving DecidableEq, Repr, Inhabited

namespace Runner

/-- All runners. -/
def all : List Runner :=
  [jest, vitest, mocha, maven, gradle, goTest, cargo, dotnet, pytest]

/-- The runner's name in data. -/
def name : Runner → String
  | jest => "jest"
  | vitest => "vitest"
  | mocha => "mocha"
  | maven => "maven"
  | gradle => "gradle"
  | goTest => "go-test"
  | cargo => "cargo"
  | dotnet => "dotnet"
  | pytest => "pytest"

/-- The program to start. -/
def program : Runner → String
  | jest | vitest | mocha => "npx"
  | maven => "mvn"
  | gradle => "gradle"
  | goTest => "go"
  | cargo => "cargo"
  | dotnet => "dotnet"
  | pytest => "python"

/-- The arguments for a run of all tests. -/
def arguments : Runner → List String
  | jest => ["jest", "--verbose"]
  | vitest => ["vitest", "run", "--reporter=verbose"]
  | mocha => ["mocha"]
  | maven => ["-B", "test"]
  | gradle => ["test", "--console=plain"]
  | goTest => ["test", "-v", "./..."]
  | cargo => ["test", "--no-fail-fast"]
  | dotnet => ["test", "--logger", "console;verbosity=normal"]
  | pytest => ["-m", "pytest", "-rA"]

/-- The class that a file is named for. -/
def className (file : Path) : String :=
  String.ofList (file.stem?.getD [])

/-- The arguments that narrow a run to one file, where the runner can do so. -/
def fileArguments (runner : Runner) (file : Path) : List String :=
  match runner with
  | jest | vitest | mocha | pytest => [file]
  | maven => ["-Dtest=" ++ className file]
  | gradle => ["--tests", "*" ++ className file]
  | goTest | cargo | dotnet => []

/-- Whether a manifest names a package among its dependencies. -/
def dependsOn (manifest : Json) (package : String) : Bool :=
  ["dependencies", "devDependencies"].any fun group =>
    ((manifest.get? group).bind fun deps => deps.get? package).isSome

/-- The runner that a manifest of JavaScript packages asks for. -/
def ofManifest? (manifest : Json) : Option Runner :=
  if dependsOn manifest "vitest" then some vitest
  else if dependsOn manifest "jest" || dependsOn manifest "ts-jest" then some jest
  else if dependsOn manifest "mocha" then some mocha
  else none

/-- Whether a name is that of a project or a solution. -/
def isProjectName (name : List Char) : Bool :=
  match (Path.splitExtension name).2 with
  | some e => e == "csproj".toList || e == "sln".toList
  | none => false

/-- The manifests in the directory at a path, with the runner that each asks for. -/
def ofFolder? (folder : Folder) (root : Path) : Option Runner :=
  let has (name : String) := folder.has (root.join name)
  let script := ((folder.read? (root.join "package.json")).bind Json.parse?).bind ofManifest?
  let inRoot := folder.names (Folder.trail root)
  match script with
  | some runner => some runner
  | none =>
    if has "pom.xml" then some maven
    else if has "build.gradle" || has "build.gradle.kts" then some gradle
    else if has "go.mod" then some goTest
    else if has "Cargo.toml" then some cargo
    else if inRoot.any isProjectName then some dotnet
    else if ["pytest.ini", "pyproject.toml", "setup.py", "setup.cfg"].any has then some pytest
    else none

end Runner

end Adjudicator
