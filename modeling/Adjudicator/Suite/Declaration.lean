import Adjudicator.Json.Basic
import Adjudicator.Suite.Language

/-!
# Tests, methods and pairs

What a source text declares: tests with their assertions, and methods with their parameters. A
pair is a test with the method it exercises. Line numbers start at one and spans include their
last line.
-/

namespace Adjudicator

/-- What an assertion checks. -/
inductive AssertionKind where
  | equals
  | throws
  | truthy
  | contains
  | other
deriving DecidableEq, Repr, Inhabited

namespace AssertionKind

/-- All kinds. -/
def all : List AssertionKind :=
  [equals, throws, truthy, contains, other]

/-- The kind's name in data. -/
def name : AssertionKind → String
  | equals => "equals"
  | throws => "throws"
  | truthy => "truthy"
  | contains => "contains"
  | other => "other"

end AssertionKind

/-- One assertion of a test. -/
structure Assertion where
  /-- What is checked. -/
  kind : AssertionKind
  /-- The text of the expected side. -/
  expected : Option String
  /-- The text of the side under test. -/
  actual : Option String
  /-- Line of the file. -/
  line : Nat
  /-- The trimmed line of code. -/
  raw : String
deriving DecidableEq, Repr, Inhabited

/-- A test function. -/
structure TestCase where
  /-- Name or title. -/
  name : String
  /-- File with the test. -/
  file : Path
  /-- First line. -/
  line : Nat
  /-- Last line. -/
  endLine : Nat
  /-- Framework of the file. -/
  framework : Framework
  /-- Assertions in order of their lines. -/
  assertions : List Assertion
  /-- The text from the declaration to the end of the body. -/
  body : String
deriving DecidableEq, Repr, Inhabited

/-- A parameter of a method. -/
structure Parameter where
  /-- Name. -/
  name : String
  /-- Text of the type. -/
  type : String
  /-- Text of the default value. -/
  fallback : Option String
deriving DecidableEq, Repr, Inhabited

/-- A function or method under test. -/
structure Method where
  /-- Name. -/
  name : String
  /-- File with the method. -/
  file : Path
  /-- First line. -/
  line : Nat
  /-- Last line. -/
  endLine : Nat
  /-- Parameters in order. -/
  parameters : List Parameter
  /-- Text of the result type. -/
  result : Option String
  /-- The text from the declaration to the end of the body. -/
  body : String
  /-- Enclosing type, where there is one. -/
  owner : Option String
deriving DecidableEq, Repr, Inhabited

/-- What a source text declares. -/
structure Declarations where
  /-- Tests in order. -/
  tests : List TestCase
  /-- Methods in order. -/
  methods : List Method
deriving DecidableEq, Repr, Inhabited

/-- Why a test and a method belong together. -/
inductive Link where
  | namingConvention
  | callGraph
  | importAnalysis
  | annotation
  | directoryStructure
  | explicitReference
deriving DecidableEq, Repr, Inhabited

namespace Link

/-- All links. -/
def all : List Link :=
  [namingConvention, callGraph, importAnalysis, annotation, directoryStructure, explicitReference]

/-- The link's name in data. -/
def name : Link → String
  | namingConvention => "NAMING_CONVENTION"
  | callGraph => "CALL_GRAPH"
  | importAnalysis => "IMPORT_ANALYSIS"
  | annotation => "ANNOTATION"
  | directoryStructure => "DIRECTORY_STRUCTURE"
  | explicitReference => "EXPLICIT_REFERENCE"

/-- Whether a name or a declaration ties the two together. -/
def isStrong : Link → Bool
  | namingConvention | annotation | explicitReference => true
  | _ => false

end Link

/-- A test and the method it exercises. -/
structure Pair where
  /-- The test. -/
  test : TestCase
  /-- The method. -/
  method : Method
  /-- How sure the pairing is, from 0 to 1. -/
  confidence : Float
  /-- Why they belong together. -/
  link : Link
deriving Repr, Inhabited

end Adjudicator
