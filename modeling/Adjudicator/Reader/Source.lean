import Adjudicator.Reader.Csharp
import Adjudicator.Reader.Go
import Adjudicator.Reader.Java
import Adjudicator.Reader.Python
import Adjudicator.Reader.Rust
import Adjudicator.Reader.Script

/-!
# Reading source files

The reader of a file is chosen by the file's extension. A file of no known language declares
nothing.
-/

namespace Adjudicator

/-- The reader of a language. -/
def Language.dialect : Language → Reader.Dialect
  | java => Reader.Java.dialect
  | typescript => Reader.Script.dialect
  | javascript => Reader.Script.dialect
  | python => Reader.Python.dialect
  | go => Reader.Go.dialect
  | rust => Reader.Rust.dialect
  | csharp => Reader.Csharp.dialect

/-- What a file with the given text declares. -/
def Declarations.ofSource (file : Path) (content : List Char) : Declarations :=
  match Language.ofPath? file with
  | some language => language.dialect.read file content
  | none => ⟨[], []⟩

end Adjudicator
