import Adjudicator.Difference.Settled
import Adjudicator.History.Renaming
import Adjudicator.History.Repository

/-!
# Origins of lines

A line of a file comes from the revision that brought it in. Lines are followed back: when the file
is the same in a revision before, all its lines come from there, and else those that a comparison
keeps do, revision by revision. Lines that no earlier revision has come from the revision itself. A
file that was renamed is followed under its old name.
-/

namespace Adjudicator

namespace Revision

/-- The text of a file. -/
def text? (r : Revision) (t : Trail) : Option String :=
  match r.tree.at? t with
  | some (.file text) => some text
  | _ => none

/-- The files of one revision that another lacks. -/
def filesNotIn (r other : Revision) : List (Trail × String) :=
  r.tree.entries.filterMap fun (t, e) =>
    match e with
    | .file text => if (other.text? t).isNone then some (t, text) else none
    | .directory => none

/-- The name that a file has in a revision before. -/
def nameIn? (r before : Revision) (t : Trail) : Option Trail :=
  if (before.text? t).isSome then some t
  else Renaming.continued? (before.filesNotIn r) (r.filesNotIn before) t

end Revision

namespace Repository

/-- The lines of a text, each with what ends it. -/
def endedLines (text : String) : List (List Char) :=
  let lines := Text.splitWhere (· == '\n') text.toList
  lines.dropLast.map (· ++ ['\n']) ++ (lines.getLast?.filter fun l => !l.isEmpty).toList

/-- A line that is followed back. -/
structure Traced where
  /-- Its number in the current revision. -/
  number : Nat
  /-- Its place in the file of the revision that is looked at. -/
  place : Nat
deriving DecidableEq, Repr

/-- Lines that a revision before has, at their places there, and those that it lacks. -/
def passOn (old new : String) (lines : List Traced) : List Traced × List Traced :=
  let common := Difference.common (endedLines old) (endedLines new)
  lines.foldr (fun line (passed, stayed) =>
    match common.placeBefore? line.place with
    | some place => ({ line with place } :: passed, stayed)
    | none => (passed, line :: stayed)) ([], [])

/-- Lines shared out over the revisions before, first come first served: for each of these the lines
that come from it, and the lines that come from none. -/
def shareOut (new : String) (lines : List Traced) :
    List (Nat × Trail × String) → List (Nat × Trail × List Traced) × List Traced
  | [] => ([], lines)
  | (i, t, old) :: rest =>
    let (passed, stayed) := passOn old new lines
    let (others, left) := shareOut new stayed rest
    ((i, t, passed) :: others, left)

/-- The revisions before with the names and texts that a file has in them. -/
def earlier (r : Repository) (revision : Revision) (t : Trail) : List (Nat × Trail × String) :=
  revision.parents.filterMap fun i => do
    let before ← r.revisions[i]?
    let name ← revision.nameIn? before t
    let text ← before.text? name
    some (i, name, text)

/-- The numbers of lines of a file in the revision at a place, each with the place of the revision
that it comes from. The bound is the greatest number of steps back. -/
def trace (r : Repository) : Nat → Nat → Trail → List Traced → List (Nat × Nat)
  | 0, _, _, _ => []
  | bound + 1, i, t, lines =>
    match r.revisions[i]? with
    | none => []
    | some revision =>
      let text := (revision.text? t).getD ""
      let before := r.earlier revision t
      match before.find? fun b => b.2.2 == text with
      | some (j, name, _) => r.trace bound j name lines
      | none =>
        let (passed, stayed) := shareOut text lines before
        let traced := passed.flatMap fun (j, name, lines) =>
          if lines.isEmpty then [] else r.trace bound j name lines
        traced ++ stayed.map fun line => (line.number, i)

/-- The origins of the lines of a path between two line numbers. Lines behind the end of the file
count as those of its first revision. -/
def origins (r : Repository) (p : Path) (first last : Nat) : List Origin :=
  match r.locate? p with
  | none => []
  | some t =>
    let low := max first 1
    let high := max last low
    if t.isEmpty || (r.revisions.getLast?.bind fun revision => revision.text? t).isNone then []
    else
      let lines := (List.range (high + 1 - low)).map fun n => (⟨low + n, low + n - 1⟩ : Traced)
      let current := r.revisions.length - 1
      let traced := r.trace r.revisions.length current t lines
      let kept := traced.filter fun o => first ≤ o.1 && o.1 ≤ last
      (kept.mergeSort fun a b => a.1 ≤ b.1).filterMap fun (line, i) =>
        r.revisions[i]?.map fun revision =>
          { line, author := revision.keptAuthor, commit := revision.hash
            date := Instant.ofSeconds? revision.time }

/-- The repository as an archive. -/
def archive {m : Type → Type} [Monad m] (r : Repository) : Archive m :=
  { commits := fun p limit => return r.commits p limit
    origins := fun p first last => return r.origins p first last }

end Repository

end Adjudicator
