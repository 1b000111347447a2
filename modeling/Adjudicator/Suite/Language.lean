import Adjudicator.Suite.Path

/-!
# Languages and frameworks

The languages that are read, told by file extension, and the test frameworks that are told apart.
-/

namespace Adjudicator

/-- A language with a reader. -/
inductive Language where
  | java
  | typescript
  | javascript
  | python
  | go
  | rust
  | csharp
deriving DecidableEq, Repr, Inhabited

namespace Language

/-- All languages. -/
def all : List Language :=
  [java, typescript, javascript, python, go, rust, csharp]

/-- The language's name in data. -/
def name : Language → String
  | java => "java"
  | typescript => "typescript"
  | javascript => "javascript"
  | python => "python"
  | go => "go"
  | rust => "rust"
  | csharp => "csharp"

/-- The language with a name. -/
def ofName? (s : String) : Option Language :=
  all.find? fun l => l.name == s

/-- The language's name for readers. -/
def title : Language → String
  | java => "Java"
  | typescript => "TypeScript"
  | javascript => "JavaScript"
  | python => "Python"
  | go => "Go"
  | rust => "Rust"
  | csharp => "C#"

/-- The extensions of a language's files. -/
def extensions : Language → List String
  | java => ["java"]
  | typescript => ["ts", "tsx", "mts", "cts"]
  | javascript => ["js", "jsx", "mjs", "cjs"]
  | python => ["py"]
  | go => ["go"]
  | rust => ["rs"]
  | csharp => ["cs"]

/-- The language of an extension, which is written in lower case. -/
def ofExtension? (extension : String) : Option Language :=
  all.find? fun l => l.extensions.contains extension

/-- The language of a file. -/
def ofPath? (path : Path) : Option Language :=
  path.extension?.bind fun e => ofExtension? (String.ofList e)

/-- Whether blocks stand in braces. -/
def bracesBlocks : Language → Bool
  | python => false
  | _ => true

end Language

/-- A test framework. -/
inductive Framework where
  | junit4
  | junit5
  | testng
  | jest
  | vitest
  | mocha
  | nodeTest
  | pytest
  | unittest
  | goTest
  | testify
  | rustTest
  | nunit
  | xunit
  | mstest
  | unknown
deriving DecidableEq, Repr, Inhabited

namespace Framework

/-- All frameworks. -/
def all : List Framework :=
  [junit4, junit5, testng, jest, vitest, mocha, nodeTest, pytest, unittest, goTest, testify,
    rustTest, nunit, xunit, mstest, unknown]

/-- The framework's name in data. -/
def name : Framework → String
  | junit4 => "junit4"
  | junit5 => "junit5"
  | testng => "testng"
  | jest => "jest"
  | vitest => "vitest"
  | mocha => "mocha"
  | nodeTest => "node-test"
  | pytest => "pytest"
  | unittest => "unittest"
  | goTest => "go-test"
  | testify => "testify"
  | rustTest => "rust-test"
  | nunit => "nunit"
  | xunit => "xunit"
  | mstest => "mstest"
  | unknown => "unknown"

end Framework

end Adjudicator
