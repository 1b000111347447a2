import Adjudicator.Folder.Basic

/-!
# Reading and writing files

What can go wrong when a file of a folder is read or written, in the words of the operating system.
-/

namespace Adjudicator

/-- Why a file could not be used. -/
structure FileCause where
  /-- Whether the file is missing. -/
  missing : Bool
  /-- The reason in words. -/
  text : String
deriving DecidableEq, Repr, Inhabited

namespace FileCause

/-- There is no such file. -/
def absent : FileCause :=
  ⟨true, "No such file or directory (os error 2)"⟩

/-- There is something already. -/
def present : FileCause :=
  ⟨false, "File exists (os error 17)"⟩

/-- Something on the way is no directory. -/
def notDirectory : FileCause :=
  ⟨false, "Not a directory (os error 20)"⟩

/-- There is a directory. -/
def directory : FileCause :=
  ⟨false, "Is a directory (os error 21)"⟩

end FileCause

namespace Folder

/-- Whether a file stands on the way along components. -/
def isBlocked (f : Folder) (parts : List Path.Component) : Bool :=
  (List.range parts.length).any fun n =>
    match f.at? (trailOf (parts.take n)) with
    | some (.file _) => true
    | _ => false

/-- The text of a file, or why it cannot be read. -/
def read (f : Folder) (p : Path) : Except FileCause String :=
  match f.get? p with
  | some (.file text) => .ok text
  | some .directory => .error .directory
  | none =>
    let tooLong := Path.endsOpen p && ((f.at? (trail p)).any fun e => e != .directory)
    .error (if tooLong || f.isBlocked p.components then .notDirectory else .absent)

/-- Why a directory cannot be made together with all on the way to it. -/
def refusal? (f : Folder) (dir : Path) : Option FileCause :=
  if f.isBlocked dir.components then some .notDirectory
  else
    match f.at? (trail dir) with
    | some (.file _) => some .present
    | _ => none

/-- The folder with a text in a file, or why it cannot be written. All directories on the way count
as made. -/
def save (f : Folder) (p : Path) (text : String) : Except FileCause Folder :=
  match f.at? (trail p) with
  | some .directory => .error .directory
  | some (.file _) => if Path.endsOpen p then .error .notDirectory else .ok (f.write (trail p) text)
  | none => if Path.endsOpen p then .error .directory else .ok (f.write (trail p) text)

/-- The directory that a path stands for: itself, or the one that it lies in. -/
def homeOf (f : Folder) (p : Path) : Path :=
  if f.isDirectory p then p
  else
    match p.parent? with
    | some above => if above.isEmpty then "." else above
    | none => "."

end Folder

end Adjudicator
