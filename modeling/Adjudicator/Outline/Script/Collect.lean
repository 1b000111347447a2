import Adjudicator.Outline.ByLine
import Adjudicator.Outline.Script.Statements

/-!
# Outlines of scripts

What a syntax tree of TypeScript or JavaScript compares, returns, defines and computes. A bare
method is no program; it is read as the only member of a class. A text with faults that a class
does not take away is read as far as its tree goes.
-/

namespace Adjudicator.Outline.Script

open Text

/-- Matchers of an expectation whose first argument is the expected value. -/
def expectMatchers : List String :=
  ["toBe", "toEqual", "toStrictEqual", "toBeCloseTo", "equal", "equals", "eql", "closeTo"]

/-- Assertions whose second argument is the expected value. -/
def assertMatchers : List String :=
  ["equal", "strictEqual", "deepEqual", "deepStrictEqual", "closeTo", "approximately"]

/-- The arithmetic operators. -/
def arithmetic : List String :=
  ["+", "-", "*", "/", "%", "**"]

/-- Whether the text of a tree is this word. -/
def reads (source : List Char) (word : String) (t : Tree) : Bool :=
  t.text source == word.toList

/-- Whether an expectation that a chain of properties and calls starts from is negated; nothing
when the chain starts from something else. -/
def negated? (source : List Char) (negated : Bool) (t : Tree) : Option Bool :=
  match t.form with
  | .member =>
    match _ : t.child? .object with
    | some object =>
      negated? source (negated || (t.child? .property).any (reads source "not")) object
    | none => none
  | .call =>
    match _ : t.child? .function with
    | some f =>
      if f.form = .identifier ∧ reads source "expect" f then some negated
      else negated? source negated f
    | none => none
  | .awaiting | .grouping =>
    match _ : t.firstNamed? with
    | some inner => negated? source negated inner
    | none => none
  | _ => none
termination_by t
decreasing_by all_goals exact Tree.sizeOf_lt_of_mem_children (List.mem_of_find?_eq_some ‹_›)

/-- Which argument of a call on an object is the expected value. -/
def expectedIndex? (source : List Char) (matcher : String) (object : Tree) : Option Nat :=
  if expectMatchers.contains matcher then
    match negated? source false object with
    | some false => some 0
    | _ => none
  else if reads source "assert" object && assertMatchers.contains matcher then some 1
  else none

/-- The assertion that a call makes. -/
def assertion? (source : List Char) (first : Nat) (call : Tree) : Option Assertion := do
  let function ← call.child? .function
  guard (function.form = .member)
  let matcher := (← function.child? .property).text source
  let object ← function.child? .object
  let arguments ← call.child? .arguments
  let index ← expectedIndex? source (String.ofList matcher) object
  let given := arguments.children.filter fun a => a.form != .comment
  let expected := given[index]?.map (Tree.text source)
  some { matcher, expected, value := expected.bind Value.readNumeric?, line := call.line first }

/-- The definition by a node with a name and a value. -/
def constant? (source : List Char) (first : Nat) (fixed : Bool) (t : Tree) : Option Constant := do
  let name ← t.child? .name
  let raw := (← t.child? .value).text source
  some { name := name.text source, raw, value := numericValue? raw, fixed, line := t.line first }

/-- The operator of a binary expression when it is arithmetic. -/
def arithmetic? (source : List Char) (t : Tree) : Option (List Char) := do
  guard (t.form = .binary)
  let operator := (← t.child? .operator).text source
  if arithmetic.contains (String.ofList operator) then some operator else none

/-- The calculation by an expression that is part of no other. -/
def calculation? (source : List Char) (first : Nat) (above : Option Tree) (t : Tree) :
    Option Calculation :=
  if (above.bind (arithmetic? source)).isSome then none
  else
    (arithmetic? source t).map fun operator =>
      { expression := t.text source
        operator
        inputs := distinct (t.leaves (· = .identifier) source)
        line := t.line first }

/-- What one node gives. -/
def read (source : List Char) (first : Nat) (above : Option Tree) (t : Tree) : Outline :=
  match t.form with
  | .call => { assertions := (assertion? source first t).toList }
  | .returning =>
    let returned := t.firstNamed?.map fun e =>
      let raw := e.text source
      { raw, value := numericValue? raw, line := t.line first : Return }
    { returns := returned.toList }
  | .declaration fixed =>
    { constants :=
        (t.children.filter fun d => d.form = .declarator).filterMap
          (constant? source first fixed) }
  | .field =>
    let fixed := (wordsWhere isBlank (t.text source)).contains "readonly".toList
    { constants := (constant? source first fixed t).toList }
  | .binary => { calculations := (calculation? source first above t).toList }
  | _ => {}

/-- The class name that a bare method is given. -/
def wrapperName : String :=
  "__Snippet"

/-- A bare method as the only member of a class; the lines stay where they are. -/
def wrapped (text : List Char) : List Char :=
  s!"class {wrapperName} \x7b ".toList ++ text ++ "\n\x7d".toList

/-- The text to read with what the parser makes of it: a text with faults is put into a class when
that leaves none. -/
def parsed? (parse : List Char → Option Parsed) (text : List Char) :
    Option (List Char × Parsed) := do
  let p ← parse text
  if !p.faulty then some (text, p)
  else
    match parse (wrapped text) with
    | some q => some (if q.faulty then (text, p) else (wrapped text, q))
    | none => some (text, p)

/-- The outline of a script whose first line has the given number. -/
def outline? (parse : List Char → Option Parsed) (text : List Char) (first : Nat) :
    Option Outline := do
  let (source, p) ← parsed? parse text
  let o := p.root.collect (read source first) none
  p.found? { o with constants := o.constants.filter fun c => c.name != wrapperName.toList }

end Adjudicator.Outline.Script
