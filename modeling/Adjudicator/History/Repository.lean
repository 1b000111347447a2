import Adjudicator.Folder.Basic
import Adjudicator.History.Archive
import Adjudicator.History.Queue
import Adjudicator.Text.Blank

/-!
# Repositories

A repository is a list of revisions, each with the files of a whole project and the places of the
revisions that it follows. The last revision is the current one, and its files stand in the working
directory. The history of a path is made of the revisions that have the path and changed what is at
it, the newest first.
-/

namespace Adjudicator

open Text

/-- A revision. -/
structure Revision where
  /-- What identifies it. -/
  hash : String
  /-- Its whole message. -/
  message : String
  /-- The name of its author. -/
  author : String
  /-- When it was made, in seconds from the start of 1970. -/
  time : Int
  /-- The places of the revisions that it follows. -/
  parents : List Nat
  /-- The files of the project. -/
  tree : Folder
deriving Repr, Inhabited

namespace Revision

/-- Whether a character at the ends of an author's name is left out. -/
def isTrimmed (c : Char) : Bool :=
  c.toNat ≤ 32 || ".,:;<>\"\\'".toList.contains c

/-- The author's name as it is kept. -/
def keptAuthor (r : Revision) : String :=
  String.ofList (dropEndWhile isTrimmed (r.author.toList.dropWhile isTrimmed))

/-- The revision as a commit. -/
def commit (r : Revision) : Commit :=
  { hash := r.hash
    message := String.ofList (trimEnd (r.message.toList.dropWhile (· == '\n')))
    author := r.keptAuthor
    date := Instant.ofSeconds r.time }

/-- Whether two folders have the same files. -/
def sameFiles (f g : Folder) : Bool :=
  f.files.all (fun e => g.files.contains e) && g.files.all fun e => f.files.contains e

/-- Whether the revision has a path and what is at it differs from the revision before. -/
def touches (r : Revision) (before : Option Revision) (t : Trail) : Bool :=
  let old := (before.map Revision.tree).getD ⟨[]⟩
  !t.isEmpty && (r.tree.at? t).isSome && !sameFiles (r.tree.inside t) (old.inside t)

end Revision

/-- The revisions of a project, in the order in which they were made. -/
structure Repository where
  /-- The revisions. -/
  revisions : List Revision := []
deriving Repr, Inhabited

namespace Repository

/-- The revision before another on its main line. -/
def before? (r : Repository) (revision : Revision) : Option Revision :=
  revision.parents.head?.bind fun i => r.revisions[i]?

/-- The time of the revision at a place. -/
def timeOf (r : Repository) (i : Nat) : Int :=
  (r.revisions[i]?.map Revision.time).getD 0

/-- Places with another one, behind all that are at least as new. -/
def insert (r : Repository) (i : Nat) (places : List Nat) : List Nat :=
  places.takeWhile (fun j => r.timeOf i ≤ r.timeOf j) ++
    i :: places.dropWhile fun j => r.timeOf i ≤ r.timeOf j

/-- The places of revisions, the newest of those that are known first, each followed by learning of
those before it. -/
def reached (r : Repository) : Nat → List Nat → List Nat → List Nat
  | 0, _, _ => []
  | _, _, [] => []
  | bound + 1, known, i :: waiting =>
    let parents := (r.revisions[i]?.map Revision.parents).getD []
    let new := parents.eraseDups.filter fun p => !known.contains p
    i :: reached r bound (known ++ new) (new.foldl (fun list p => r.insert p list) waiting)

/-- The places of the current revision and all before it, the newest first. -/
def walk (r : Repository) : List Nat :=
  match r.revisions.length with
  | 0 => []
  | n + 1 => Queue.sorted (fun i j => r.timeOf j < r.timeOf i) (r.reached (n + 1) [n] [n])

/-- The directories on the way to an entry. -/
def directories (f : Folder) : List (Trail × Entry) :=
  f.entries.flatMap fun e =>
    (List.range e.1.length).map fun n => (e.1.take n, Entry.directory)

/-- The files of the current revision. -/
def tree (r : Repository) : Folder :=
  (r.revisions.getLast?.map Revision.tree).getD ⟨[]⟩

/-- The working directory: the files of the current revision, and every directory that ever had
a file. -/
def workingTree (r : Repository) : Folder :=
  let kept := r.revisions.flatMap fun revision => directories revision.tree
  ⟨r.tree.entries ++ ([".git".toList], .directory) :: kept⟩

/-- The trail of a path in the repository. A path that is not there counts as it is spelled, when
what it lies in is there. -/
def locate? (r : Repository) (p : Path) : Option Trail :=
  let work := r.workingTree
  let t := Folder.trail p
  if p.isEmpty || !Folder.leadsDown t then none
  else if work.has p then some t
  else
    let spelled := (p.components.filter (· != .here)).map Path.Component.text
    match p.parent? with
    | some above => if above.isEmpty || work.has above then some spelled else none
    | none => none

/-- Whether a path lies in the repository. -/
def contains (r : Repository) (p : Path) : Bool :=
  (r.locate? p).isSome

/-- The newest commits that touch a path. -/
def commits (r : Repository) (p : Path) (limit : Nat) : List Commit :=
  match r.locate? p with
  | none => []
  | some t =>
    let touching := (r.walk.filterMap (r.revisions[·]?)).filter fun revision =>
      revision.touches (r.before? revision) t
    (touching.take limit).map Revision.commit

/-- The repository with another revision, which changes some files of the current one; a file
without a text is taken out. It follows the current revision when nothing else is said. -/
def record (r : Repository) (changes : List (Path × Option String)) (hash message author : String)
    (time : Int) (parents : Option (List Nat)) : Repository :=
  let change (f : Folder) (p : Path) : Option String → Folder
    | some text => f.write (Folder.trail p) text
    | none => ⟨f.entries.filter fun e => e.1 != Folder.trail p⟩
  let tree := changes.foldl (fun f (p, text) => change f p text) r.tree
  let last := if r.revisions.isEmpty then [] else [r.revisions.length - 1]
  ⟨r.revisions ++ [{ hash, message, author, time, parents := parents.getD last, tree }]⟩

end Repository

end Adjudicator
