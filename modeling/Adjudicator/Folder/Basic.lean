import Adjudicator.Suite.Path

/-!
# Folders

The files and directories seen from a working directory, each under the names on the way to it. A
directory is there when it is listed or when something lies in it. A way may begin at the root of
the file system or go up from the working directory; these steps count as names.
-/

namespace Adjudicator

open Text

/-- A file with its text, or a directory. -/
inductive Entry where
  | file (text : String)
  | directory
deriving DecidableEq, Repr, Inhabited

/-- The names on the way to an entry. -/
abbrev Trail :=
  List (List Char)

/-- What is seen from a working directory. -/
structure Folder where
  /-- The entries under their trails. -/
  entries : List (Trail × Entry)
deriving Repr, Inhabited

namespace Folder

/-- The name that stands for the root of the file system. -/
def rootName : List Char :=
  ['/']

/-- The name that stands for a step up. -/
def upName : List Char :=
  ['.', '.']

/-- A trail, newest name first, with a component at its end. -/
def follow (above : Trail) : Path.Component → Trail
  | .root => [rootName]
  | .here => above
  | .up =>
    match above with
    | [] => [upName]
    | name :: rest =>
      if name = rootName then above else if name = upName then upName :: above else rest
  | .entry name => name :: above

/-- Whether a trail stays below the working directory. -/
def leadsDown (t : Trail) : Bool :=
  t.head? != some rootName && t.head? != some upName

/-- The trail to which components lead. -/
def trailOf (parts : List Path.Component) : Trail :=
  (parts.foldl follow []).reverse

/-- The trail to which a path leads. -/
def trail (p : Path) : Trail :=
  trailOf p.components

/-- What a trail leads to. -/
def at? (f : Folder) (t : Trail) : Option Entry :=
  match f.entries.lookup t with
  | some e => some e
  | none =>
    if t.isEmpty || f.entries.any fun e => t.isPrefixOf e.1 then some .directory else none

/-- Whether every step on the way along a path starts at a directory. -/
def isPassable (f : Folder) (p : Path) : Bool :=
  let parts := p.components
  (List.range parts.length).all fun n =>
    f.at? (trailOf (parts.take n)) == some .directory

/-- What a path leads to; the empty path leads nowhere, and one with a slash or a point at its end
leads to no file. -/
def get? (f : Folder) (p : Path) : Option Entry :=
  if p.isEmpty || !f.isPassable p then none
  else
    (f.at? (trail p)).filter fun e => e == .directory || !Path.endsOpen p

/-- Whether a path leads to anything. -/
def has (f : Folder) (p : Path) : Bool :=
  (f.get? p).isSome

/-- The text of a file. -/
def read? (f : Folder) (p : Path) : Option String :=
  match f.get? p with
  | some (.file text) => some text
  | _ => none

/-- Whether a path leads to a directory. -/
def isDirectory (f : Folder) (p : Path) : Bool :=
  f.get? p == some .directory

/-- Whether a path leads to a file. -/
def isFile (f : Folder) (p : Path) : Bool :=
  (f.read? p).isSome

/-- The folder with a file. -/
def write (f : Folder) (t : Trail) (text : String) : Folder :=
  if f.entries.any fun e => e.1 == t then
    ⟨f.entries.map fun e => if e.1 == t then (t, .file text) else e⟩
  else ⟨f.entries ++ [(t, .file text)]⟩

/-- The name that follows a trail on the way to another. -/
def nameBelow? (t other : Trail) : Option (List Char) :=
  match t.isPrefixOf? other with
  | some (name :: _) => some name
  | _ => none

/-- The names in the directory at a trail, each once and in order. -/
def names (f : Folder) (t : Trail) : List (List Char) :=
  ((f.entries.filterMap fun e => nameBelow? t e.1).mergeSort fun a b =>
    String.ofList a ≤ String.ofList b).eraseReps

/-- A trail as a path. -/
def pathOf (t : Trail) : Path :=
  String.ofList (List.intercalate ['/'] t)

/-- The texts of all files under their paths. -/
def files (f : Folder) : List (Path × String) :=
  f.entries.filterMap fun e =>
    match e.2 with
    | .file text => some (pathOf e.1, text)
    | .directory => none

/-- The folder of entries under paths. -/
def ofEntries (entries : List (Path × Entry)) : Folder :=
  ⟨entries.map fun (p, e) => (trail p, e)⟩

/-- What lies below a trail, seen from there. -/
def inside (f : Folder) (t : Trail) : Folder :=
  ⟨f.entries.filterMap fun (way, e) => (t.isPrefixOf? way).map (·, e)⟩

/-- The folder with another content below a trail. -/
def replaceInside (f : Folder) (t : Trail) (inner : Folder) : Folder :=
  let others := f.entries.filter fun e => !t.isPrefixOf e.1
  ⟨others ++ inner.entries.map fun (way, e) => (t ++ way, e)⟩

end Folder

end Adjudicator
