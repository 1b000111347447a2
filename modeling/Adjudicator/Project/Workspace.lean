import Adjudicator.Mutation.Report
import Adjudicator.Pairing
import Adjudicator.Project.Discovery
import Adjudicator.Reader.Source
import Adjudicator.Report.Assessment

/-!
# Projects

The pairs of a project: the declarations of all its source files are read, and every test is paired
with a method of any file. Pairs that are less sure than asked for are left out.
-/

namespace Adjudicator

/-- A source file of a project. -/
structure SourceFile where
  /-- Its path. -/
  path : Path
  /-- Its text. -/
  text : String
deriving DecidableEq, Repr, Inhabited

/-- The pairs of a project with its source files. -/
structure Workspace where
  /-- The pairs. -/
  pairs : List Pair
  /-- The source files. -/
  sources : List SourceFile
deriving Repr, Inhabited

namespace Workspace

/-- What a source file declares. -/
def declared (s : SourceFile) : Declarations :=
  Declarations.ofSource s.path s.text.toList

/-- The workspace of source files. -/
def ofSources (sources : List SourceFile) (minConfidence : Float) : Workspace :=
  let all := sources.map declared
  let pairs := Pairing.pairs (all.flatMap Declarations.tests) (all.flatMap Declarations.methods)
  { pairs := pairs.filter fun p => minConfidence ≤ p.confidence, sources }

/-- The workspace of some paths of a folder. -/
def prepare (f : Folder) (paths : List Path) (patterns : List String) (minConfidence : Float) :
    Except Error Workspace :=
  (Discovery.files f paths patterns).map fun files =>
    ofSources (files.filterMap fun p => (f.read? p).map (⟨p, ·⟩)) minConfidence

/-- The text of a source file. -/
def text? (w : Workspace) (p : Path) : Option String :=
  (w.sources.find? fun s => s.path.same p).map SourceFile.text

/-- The report of the pairs. -/
def assess {m : Type → Type} [Monad m] (w : Workspace) (a : Assessor (OptionT m)) : m Report := do
  return ⟨← a.assessAll w.text? w.pairs⟩

/-- The mutations of the pairs. -/
def mutations (w : Workspace) : List PairMutations :=
  w.pairs.map fun p => ⟨p, Mutation.report p ((w.text? p.method.file).map String.toList)⟩

end Workspace

end Adjudicator
