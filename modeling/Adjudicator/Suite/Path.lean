import Adjudicator.Text.Search

/-!
# Paths

A path is its text. It consists of components between slashes; a point in the middle or at the
end stands for nothing and repeated slashes count once. The extension of a file name begins behind
its last point, unless that point is its first character.
-/

namespace Adjudicator

/-- The text of a path. -/
abbrev Path :=
  String

namespace Path

open Text

/-- One component of a path. -/
inductive Component where
  /-- The root of the file system. -/
  | root
  /-- The directory itself, at the start of a path. -/
  | here
  /-- The directory above. -/
  | up
  /-- An entry of a directory. -/
  | entry (name : List Char)
deriving DecidableEq, Repr

/-- The component that a name between slashes stands for. -/
def Component.ofName (name : List Char) : Component :=
  if name = ['.', '.'] then up else entry name

/-- The components of a path. -/
def components (p : Path) : List Component :=
  let names := splitWhere (· == '/') p.toList
  let entries := (names.filter fun n => !n.isEmpty && n != ['.']).map Component.ofName
  match p.toList, names with
  | '/' :: _, _ => .root :: entries
  | _, ['.'] :: _ => .here :: entries
  | _, _ => entries

/-- Whether a path starts at the root. -/
def isAbsolute (p : Path) : Bool :=
  p.toList.head? == some '/'

/-- The text of one component. -/
def Component.text : Component → List Char
  | root => ['/']
  | here => ['.']
  | up => ['.', '.']
  | entry name => name

/-- Components as a path. -/
def ofComponents : List Component → Path
  | .root :: rest => String.ofList ('/' :: List.intercalate ['/'] (rest.map Component.text))
  | parts => String.ofList (List.intercalate ['/'] (parts.map Component.text))

/-- Whether a path ends behind a slash or with a lone point. -/
def endsOpen (p : Path) : Bool :=
  match p.toList.reverse with
  | '/' :: _ | ['.'] | '.' :: '/' :: _ => true
  | _ => false

/-- The last component, when it names an entry. -/
def fileName? (p : Path) : Option (List Char) :=
  match p.components.getLast? with
  | some (.entry name) => some name
  | _ => none

/-- A file name cut at the point that begins its extension. -/
def splitExtension (name : List Char) : List Char × Option (List Char) :=
  let tail := name.reverse.takeWhile (· != '.')
  let stem := (name.reverse.drop (tail.length + 1)).reverse
  if tail.length = name.length ∨ stem.isEmpty then (name, none) else (stem, some tail.reverse)

/-- The extension of the file name. -/
def extension? (p : Path) : Option (List Char) :=
  p.fileName?.bind fun name => (splitExtension name).2

/-- The file name without its extension. -/
def stem? (p : Path) : Option (List Char) :=
  p.fileName?.map fun name => (splitExtension name).1

/-- A path cut behind the component at its start that is the root or the directory itself. -/
def splitStart : List Char → List Char × List Char
  | '/' :: rest => (['/'], rest)
  | ['.'] => (['.'], [])
  | '.' :: '/' :: rest => (['.'], '/' :: rest)
  | s => ([], s)

/-- A text held newest character first, without the slashes and lone points at its end. -/
def dropIdle : List Char → List Char
  | '/' :: rest => dropIdle rest
  | ['.'] => []
  | '.' :: '/' :: rest => dropIdle rest
  | s => s

/-- The path without its last component, as it is spelled; nothing for the root and for the empty
path. -/
def parent? (p : Path) : Option Path :=
  let (start, body) := splitStart p.toList
  match dropIdle body.reverse with
  | [] => if start = ['.'] then some "" else none
  | name => some (String.ofList (start ++ (dropIdle (name.dropWhile (· != '/'))).reverse))

/-- A path and its parents, the nearest first, at most so many. -/
def ancestors : Nat → Path → List Path
  | 0, _ => []
  | n + 1, p =>
    p :: (match p.parent? with
      | some above => ancestors n above
      | none => [])

/-- The steps to a path from a directory with which it has no start in common: up once for each
component of the directory, and down to the path. -/
def stepsOver? : List Component → List Component → Option (List Component)
  | path, [] => some path
  | [], base => some (base.map fun _ => .up)
  | a :: path, b :: base =>
    if b = .up then none else some (.up :: base.map (fun _ => .up) ++ a :: path)

/-- The steps to a path from a directory, both given by their components. The start that both have
in common needs none. -/
def steps? : List Component → List Component → Option (List Component)
  | a :: path, b :: base =>
    if a = b then steps? path base
    else if b = .here then (stepsOver? path base).map (a :: ·)
    else stepsOver? (a :: path) (b :: base)
  | path, base => stepsOver? path base

/-- A path seen from a directory when it lies below it, and else as it is. -/
def relativeTo (p base : Path) : Path :=
  if p.isAbsolute != base.isAbsolute then p
  else
    match steps? p.components base.components with
    | some (.up :: _) | none => p
    | some steps => ofComponents steps

/-- A path below a directory; an absolute path stays. -/
def join (dir p : Path) : Path :=
  if p.isAbsolute then p
  else if dir.isEmpty || dir.toList.getLast? == some '/' then dir ++ p
  else dir ++ "/" ++ p

/-- The components behind those of a directory, when the path lies in it. -/
def below? (dir p : Path) : Option (List Component) :=
  dir.components.isPrefixOf? p.components

/-- Lexicographic order of components: a root before the directory itself, that before the one
above, and entries last by their text. -/
def Component.rank : Component → Nat
  | root => 1
  | here => 2
  | up => 3
  | entry _ => 4

/-- Whether one component comes before another. -/
def Component.before (a b : Component) : Bool :=
  match a, b with
  | entry x, entry y => String.ofList x < String.ofList y
  | _, _ => a.rank < b.rank

/-- Whether one list of components comes strictly before another. -/
def componentsBefore : List Component → List Component → Bool
  | [], [] => false
  | [], _ :: _ => true
  | _ :: _, [] => false
  | a :: as, b :: bs => if a = b then componentsBefore as bs else a.before b

/-- Whether two paths are spelled with the same components. -/
def same (p q : Path) : Bool :=
  p.components == q.components

/-- Whether a path comes before another or equals it. -/
def atMost (p q : Path) : Bool :=
  !componentsBefore q.components p.components

end Path

end Adjudicator
