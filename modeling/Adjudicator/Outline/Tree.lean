import Adjudicator.Outline.Basic

/-!
# Syntax trees

A syntax tree keeps of a grammar what outlines need: the form of each node, its part in the node
above, and the region of the text that it covers. Nodes are listed in the order of the text; marks
that are no nodes of their own, such as brackets and commas, are left out. A parser that meets a
fault goes on behind it, so that the tree of a faulty text holds what could be read all the same.
-/

namespace Adjudicator.Outline

/-- A part of a text. -/
structure Region where
  /-- Characters before the part. -/
  start : Nat
  /-- Characters up to its end. -/
  stop : Nat
  /-- Line feeds before the part. -/
  row : Nat
deriving DecidableEq, Repr

/-- What a node is. -/
inductive Form where
  /-- A name that stands for a variable. -/
  | identifier
  /-- A comment. -/
  | comment
  /-- A call. -/
  | call
  /-- The arguments of a call. -/
  | arguments
  /-- An argument given by name. -/
  | namedArgument
  /-- A property or attribute of an object. -/
  | member
  /-- An item of an object, or another place that can be assigned to. -/
  | element
  /-- A list or a set of named values. -/
  | collection
  /-- An expression in parentheses. -/
  | grouping
  /-- An expression whose result is waited for. -/
  | awaiting
  /-- An expression with an operator between two operands. -/
  | binary
  /-- A chain of comparisons. -/
  | comparison
  /-- An operator. -/
  | operator
  /-- A return statement. -/
  | returning
  /-- An assert statement. -/
  | asserting
  /-- An assignment. -/
  | assignment
  /-- A declaration of names, which cannot change when `fixed`. -/
  | declaration (fixed : Bool)
  /-- One declared name. -/
  | declarator
  /-- A field of a class. -/
  | field
  /-- Any other node. -/
  | other
deriving DecidableEq, Repr

/-- The part a node has in the node above. -/
inductive Part where
  | plain
  | function
  | arguments
  | object
  | property
  | name
  | value
  | operator
deriving DecidableEq, Repr

/-- A syntax tree. -/
inductive Tree where
  /-- A node with its children. -/
  | node (form : Form) (part : Part) (region : Region) (children : List Tree)
deriving Repr

namespace Tree

/-- What the root is. -/
def form : Tree → Form
  | node form _ _ _ => form

/-- The part of the root in the node above. -/
def part : Tree → Part
  | node _ part _ _ => part

/-- The region of the root. -/
def region : Tree → Region
  | node _ _ region _ => region

/-- The nodes below the root. -/
def children : Tree → List Tree
  | node _ _ _ children => children

/-- The tree as another part. -/
def as (part : Part) : Tree → Tree
  | node form _ region children => node form part region children

/-- The child with a part. -/
def child? (part : Part) (t : Tree) : Option Tree :=
  t.children.find? fun c => c.part == part

/-- The first child that is no operator. -/
def firstNamed? (t : Tree) : Option Tree :=
  t.children.find? fun c => c.form != .operator

/-- Each child is smaller than the tree. -/
theorem sizeOf_lt_of_mem_children {t c : Tree} (h : c ∈ t.children) : sizeOf c < sizeOf t := by
  cases t with
  | node form part region children =>
    have hc : sizeOf c < sizeOf children := List.sizeOf_lt_of_mem h
    simp only [node.sizeOf_spec]
    omega

/-- The text that a tree covers. -/
def text (source : List Char) (t : Tree) : List Char :=
  (source.drop t.region.start).take (t.region.stop - t.region.start)

/-- The line of a tree in a file where the text begins on line `first`. -/
def line (first : Nat) (t : Tree) : Nat :=
  t.region.row + first

mutual

/-- The texts of the leaves in `wanted`, from left to right; below such a leaf nothing is read. -/
def leaves (wanted : Form → Bool) (source : List Char) : Tree → List (List Char)
  | node form part region children =>
    if wanted form then [text source (node form part region children)]
    else leavesOf wanted source children

/-- The texts of the leaves in `wanted` of several trees. -/
def leavesOf (wanted : Form → Bool) (source : List Char) : List Tree → List (List Char)
  | [] => []
  | t :: rest => leaves wanted source t ++ leavesOf wanted source rest

end

mutual

/-- What `read` finds at the nodes, each before the nodes below it. The first argument of `read`
is the node above. -/
def collect (read : Option Tree → Tree → Outline) (above : Option Tree) : Tree → Outline
  | node form part region children =>
    let here := node form part region children
    read above here ++ collectAll read (some here) children

/-- What `read` finds at the nodes of several trees. -/
def collectAll (read : Option Tree → Tree → Outline) (above : Option Tree) :
    List Tree → Outline
  | [] => {}
  | t :: rest => collect read above t ++ collectAll read above rest

end

end Tree

/-- What a parser makes of a text. -/
structure Parsed where
  /-- The syntax tree. -/
  root : Tree
  /-- Whether the text has faults, behind which the parser went on. -/
  faulty : Bool
deriving Repr

namespace Parsed

/-- A faulty text of which nothing could be read. -/
def unread : Parsed :=
  { root := .node .other .plain ⟨0, 0, 0⟩ [], faulty := true }

/-- A text without faults with the nodes at its top. -/
def whole (text : List Char) (nodes : List Tree) : Parsed :=
  { root := .node .other .plain ⟨0, text.length, 0⟩ nodes, faulty := false }

/-- What was found in the tree, unless the text has faults and nothing was found. -/
def found? (p : Parsed) (o : Outline) : Option Outline :=
  if p.faulty && o.isEmpty then none else some o

end Parsed

/-- The parsers of the languages that are read by a grammar. Any of them may give no tree. -/
structure Grammars where
  /-- The parser of scripts, with types or without. -/
  script : (typed : Bool) → List Char → Option Parsed
  /-- The parser of Python. -/
  python : List Char → Option Parsed

/-- The items, each only where it occurs first. -/
def distinct (items : List (List Char)) : List (List Char) :=
  items.foldl (fun seen item => if seen.contains item then seen else seen ++ [item]) []

end Adjudicator.Outline
