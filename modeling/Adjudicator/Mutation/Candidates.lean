import Adjudicator.Code.Body
import Adjudicator.Mutation.Basic
import Adjudicator.Mutation.Masked
import Adjudicator.Number.Reading
import Adjudicator.Pattern.Build
import Adjudicator.Pattern.Search

/-!
# Candidate mutations

The edits of a line of code: its numbers made a tenth larger and smaller, its operators and truth
values swapped, one added to what it returns, and its condition negated. Blank lines, comments and
the contents of literals are never edited.
-/

namespace Adjudicator.Mutation

open Text Pattern Number

/-- A number that neither follows nor belongs to a word. -/
def numberPattern : Pattern :=
  freshStart ++ group 1 decimal ++ boundary

/-- A number times a factor; a whole number stays whole and moves by at least one. -/
def nudged (value factor : Float) (whole : Bool) : Float :=
  let scaled := value * factor
  if !whole then scaled
  else
    let rounded := round scaled
    if rounded != value then rounded
    else if 1.0 < factor then value + 1.0
    else value - 1.0

/-- The literal of a number: a whole number, or at most four decimals and at least one. -/
def literal (value : Float) (whole : Bool) : List Char :=
  if whole then intChars (toSigned64 value)
  else
    let text := dropEndWhile (· == '0') (fixed 4 value)
    if text.getLast? = some '.' then text ++ ['0'] else text

/-- A line of code that is looked at. -/
structure Subject where
  /-- The line. -/
  line : List Char
  /-- Its masked form. -/
  masked : List Char
  /-- Its number in the file. -/
  number : Nat
deriving DecidableEq, Repr

/-- A mutation that replaces a part of the line. -/
def Subject.edit (s : Subject) (kind : MutationKind) (start stop : Nat) (new : List Char)
    (description : List Char) (change : Option NumberChange := none) : Mutation :=
  { kind, line := s.number, code := trim s.line
    mutated := (cut s.line s.masked start stop).replaced new
    description, change }

/-- The two changes of one number of the line. -/
def Subject.numberChanges (s : Subject) (m : Match) : List Mutation :=
  match m.span? 1, readFloat? (m.group 1) with
  | some (start, stop), some value =>
    if value == 0.0 || value == 1.0 then []
    else
      let old := m.group 1
      let whole := !old.contains '.'
      [(1.1, "+10%"), (0.9, "-10%")].map fun (factor, label) =>
        let changed := nudged value factor whole
        let new := literal changed whole
        s.edit .number start stop new
          ("Change ".toList ++ old ++ " to ".toList ++ new ++ s!" ({label})".toList)
          (some ⟨value, changed⟩)
  | _, _ => []

/-- The changes of the numbers of the line. -/
def Subject.numbers (s : Subject) : List Mutation :=
  (numberPattern.findAll s.masked).flatMap s.numberChanges

/-- The operator that takes the place of an operator, and the kind of this mutation. -/
def partner? (operator : String) : Option (String × MutationKind) :=
  match operator with
  | "+" => some ("-", .operator)
  | "-" => some ("+", .operator)
  | "*" => some ("/", .operator)
  | "/" => some ("*", .operator)
  | ">" => some (">=", .bound)
  | "<" => some ("<=", .bound)
  | ">=" => some (">", .bound)
  | "<=" => some ("<", .bound)
  | "==" => some ("!=", .operator)
  | "!=" => some ("==", .operator)
  | "&&" => some ("||", .operator)
  | "||" => some ("&&", .operator)
  | _ => none

/-- Pairs of characters that contain operators and are none to swap. -/
def noOperators : List String :=
  ["->", "=>", "++", "--", "+=", "-=", "*=", "/=", "::", "<<", ">>", "//", "/*", "*/", "**"]

/-- Operators of two characters that need no blanks around them. -/
def tightOperators : List String :=
  ["&&", "||", "==", "!="]

/-- The operators of a masked line with their positions, from a place with `skip` characters of
an operator already read and the character before. An operator of one character has blanks on
both sides. -/
def operatorsFrom (skip : Nat) (prev : Option Char) (index : Nat) :
    List Char → List (Nat × String)
  | [] => []
  | c :: rest =>
    match skip with
    | skip + 1 => operatorsFrom skip (some c) (index + 1) rest
    | 0 =>
      let two := String.ofList (c :: rest.take 1)
      let one := String.ofList [c]
      let isPair := rest.head?.isSome
      if isPair && noOperators.contains two then operatorsFrom 1 (some c) (index + 1) rest
      else if isPair && (partner? two).isSome then
        let spaced := prev.all isAsciiBlank && (rest.drop 1).head?.all isAsciiBlank
        let others := operatorsFrom 1 (some c) (index + 1) rest
        if tightOperators.contains two || spaced then (index, two) :: others else others
      else
        let others := operatorsFrom 0 (some c) (index + 1) rest
        if (partner? one).isSome && prev.any isAsciiBlank && rest.head?.any isAsciiBlank then
          (index, one) :: others
        else others

/-- The swaps of the operators of the line. -/
def Subject.operators (s : Subject) : List Mutation :=
  (operatorsFrom 0 none 0 s.masked).filterMap fun (index, operator) =>
    (partner? operator).map fun (other, kind) =>
      s.edit kind index (index + operator.length) other.toList
        s!"Replace {operator} with {other}".toList

/-- A truth value. -/
def truthPattern : Pattern :=
  boundary ++ group 1 (choice ["true", "false", "True", "False"]) ++ boundary

/-- An assertion about a truth value. -/
def truthAssertion : Pattern :=
  choice
    [boundary ++ "assert" ++ choice ["True", "False", "_true", "_false"] ++ boundary,
      boundary ++ "Is" ++ choice ["True", "False"] ++ boundary]

/-- The other truth value. -/
def flipped (value : String) : String :=
  match value with
  | "true" => "false"
  | "false" => "true"
  | "True" => "False"
  | _ => "True"

/-- The swaps of the truth values of the line; none in an assertion about one. -/
def Subject.truths (s : Subject) : List Mutation :=
  if truthAssertion.found s.masked then []
  else
    (truthPattern.findAll s.masked).map fun m =>
      let old := String.ofList m.text
      let new := flipped old
      s.edit .truth m.start m.stop new.toList s!"Flip {old} to {new}".toList

/-- A return statement with arithmetic. -/
def returnedArithmetic : Pattern :=
  textStart ++ group 1 gap ++ "return" ++ space ++
    group 2
      ((one fun c => isWord c || isBlank c || ".()".toList.contains c).plus ++ anyOf "-+*/%" ++
        (one fun c => isWord c || isBlank c || ".()+-*/%".toList.contains c).starLazy) ++
    gap ++ group 3 (opt ";") ++ gap ++ textEnd

/-- One added to what the line returns. -/
def Subject.results (s : Subject) : List Mutation :=
  match returnedArithmetic.find? s.masked with
  | some m =>
    match m.span? 2 with
    | some (start, stop) =>
      let e := trim (cut s.line s.masked start stop).part
      [{ kind := .result, line := s.number, code := trim s.line
         mutated := "return ".toList ++ e ++ " + 1".toList ++ m.group 3
         description := "Return ".toList ++ e ++ " + 1 instead of ".toList ++ e }]
    | none => []
  | none => []

/-- A condition in parentheses, as far as the last parenthesis of the line. -/
def conditionPattern : Pattern :=
  boundary ++ "if" ++ gap ++ "(" ++ group 1 dot.plus ++ ")"

/-- The length of a text up to the parenthesis that closes the one before it, where `depth` more
are open. -/
def balancedLength (depth : Nat) : List Char → Nat
  | [] => 0
  | c :: rest =>
    if c = '(' then balancedLength (depth + 1) rest + 1
    else if c = ')' then
      match depth with
      | 0 => 0
      | depth + 1 => balancedLength depth rest + 1
    else balancedLength depth rest + 1

/-- The negation of the condition of the line, unless it is negated already. -/
def Subject.conditions (s : Subject) : List Mutation :=
  match (conditionPattern.find? s.masked).bind fun m => (m.span? 1).map (·.1, m.group 1) with
  | some (start, inner) =>
    let stop := start + balancedLength 0 inner
    let condition := (cut s.line s.masked start stop).part
    if (trimStart condition).head? = some '!' || blank condition then []
    else
      [s.edit .condition start stop ("!(".toList ++ condition ++ [')'])
        ("Negate condition ".toList ++ trim condition)]
  | none => []

/-- The mutations of one line. -/
def ofLine (line : List Char) (number : Nat) : List Mutation :=
  let trimmed := trim line
  if trimmed.isEmpty || Code.isComment trimmed then []
  else
    let s : Subject := ⟨line, mask line, number⟩
    s.numbers ++ s.operators ++ s.truths ++ s.results ++ s.conditions

/-- The mutations of a body whose first line has the given number. -/
def ofBody (body : List Char) (first : Nat) : List Mutation :=
  ((lines body).zipIdx first).flatMap fun (line, number) => ofLine line number

end Adjudicator.Mutation
