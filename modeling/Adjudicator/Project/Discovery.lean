import Adjudicator.Error
import Adjudicator.Folder.Basic
import Adjudicator.Project.Exclusion
import Adjudicator.Suite.Language

/-!
# Source files of a project

The files in known languages below some paths, sorted and each once. A directory is searched to its
end, but for what belongs to version control and what is excluded, by the patterns of a request or
by the rules in the directories on the way. The first path has to exist; others may be missing.
-/

namespace Adjudicator.Discovery

open Text

/-- The directory of version control. -/
def gitName : List Char :=
  ".git".toList

/-- Whether a path is that of a file in a known language. -/
def isSource (p : Path) : Bool :=
  (Language.ofPath? p).isSome

/-- The rules of a request. -/
def requested (patterns : List String) : Except Error (List Exclusion) :=
  patterns.foldlM
    (fun rules pattern =>
      let line := '!' :: pattern.toList
      match Exclusion.ofLine? line with
      | .ok rule => .ok (rules ++ rule.toList)
      | .error e =>
        let shown := String.ofList (trimEnd line)
        .error (.configuration (s!"bad exclude pattern '{pattern}': error parsing glob " ++
          s!"'{shown}': {e.message}"))) []

/-- The rules in a file of a directory. -/
def rulesIn (f : Folder) (dir name : Trail) : List Exclusion :=
  match f.at? (dir ++ name) with
  | some (.file text) => Exclusion.ofFile text
  | _ => []

/-- Whether a directory is the top of a project under version control. -/
def isTop (f : Folder) (dir : Trail) : Bool :=
  (f.at? (dir ++ [gitName])).isSome

/-- The directories on the way to a trail, the nearest first. -/
def above (t : Trail) : List Trail :=
  (List.range t.length).reverse.map t.take

/-- Directories up to the first that is the top of a project. -/
def upToTop (f : Folder) : List Trail → List Trail
  | [] => []
  | dir :: rest => if isTop f dir then [dir] else dir :: upToTop f rest

/-- What the nearest rules in files of a name say about a trail. -/
def saidBy? (f : Folder) (name t : Trail) (isDirectory : Bool) (dirs : List Trail) : Option Bool :=
  dirs.findSome? fun dir =>
    Exclusion.excluded? (rulesIn f dir name) (t.drop dir.length) isDirectory

/-- Whether rules on the way to a trail exclude it. The rules of version control count only in a
project that is under it. -/
def excludedByFiles (f : Folder) (t : Trail) (isDirectory : Bool) : Bool :=
  let dirs := above t
  let tracked := if dirs.any (isTop f) then upToTop f dirs else []
  let said := saidBy? f [".ignore".toList] t isDirectory dirs
  let said := said.or (saidBy? f [".gitignore".toList] t isDirectory tracked)
  let said := said.or (saidBy? f [gitName, "info".toList, "exclude".toList] t isDirectory tracked)
  said.getD false

/-- Whether an entry below a directory is left out, given the names on the way. -/
def isSkipped (f : Folder) (rules : List Exclusion) (root names : Trail) (isDirectory : Bool) :
    Bool :=
  names.getLast? == some gitName || Exclusion.excluded? rules names isDirectory == some false ||
    excludedByFiles f (root ++ names) isDirectory

/-- Whether a file below a directory is reached: neither it nor a directory on the way is left
out. -/
def isReached (f : Folder) (rules : List Exclusion) (root names : Trail) : Bool :=
  !isSkipped f rules root names false &&
    (List.range (names.length - 1)).all fun n =>
      !isSkipped f rules root (names.take (n + 1)) true

/-- The source files below a directory. -/
def below (f : Folder) (rules : List Exclusion) (dir : Path) : List Path :=
  let root := Folder.trail dir
  (f.inside root).entries.filterMap fun (names, e) =>
    let p := dir.join (Folder.pathOf names)
    match e with
    | .file _ => if isSource p && isReached f rules root names then some p else none
    | .directory => none

/-- The source files that a path stands for. -/
def ofPath (f : Folder) (patterns : List String) (p : Path) : Except Error (List Path) :=
  match f.get? p with
  | some .directory => (requested patterns).map fun rules => below f rules p
  | some (.file _) => .ok (if isSource p then [p] else [])
  | none => .ok []

/-- Paths in order, each once. -/
def sorted (paths : List Path) : List Path :=
  (paths.mergeSort Path.atMost).foldr
    (fun p rest => if rest.head?.any fun q => p.same q then p :: rest.drop 1 else p :: rest) []

/-- The error of a path that is not there. -/
def missing (p : Path) : Error :=
  .file p ⟨true, "path does not exist"⟩

/-- The source files below some paths. -/
def files (f : Folder) (paths : List Path) (patterns : List String) : Except Error (List Path) :=
  match paths with
  | first :: _ =>
    if f.has first then (paths.mapM (ofPath f patterns)).map fun found => sorted found.flatten
    else .error (missing first)
  | [] => .ok []

end Adjudicator.Discovery
