import Adjudicator.Code.Body
import Adjudicator.Value.Literal

/-!
# Values of a method body

Every numeric value that a body mentions, with the line it stands on: a returned value, a value
given to a name, or a literal inside another expression. Comment lines count for nothing, and text
in quotes has no influence.
-/

namespace Adjudicator.Value

open Text Code Pattern

/-- Where a value stands. -/
inductive Role where
  /-- The whole of a return statement. -/
  | returned
  /-- The whole right side of an assignment. -/
  | constant
  /-- A literal in any other line. -/
  | calculation
deriving DecidableEq, Repr

/-- The name of a role. -/
def Role.name : Role → String
  | returned => "Return"
  | constant => "Constant"
  | calculation => "Calculation"

/-- A value of a method body. -/
structure SourceValue where
  /-- Where it stands. -/
  role : Role
  /-- The number. -/
  value : Float
  /-- Line of the file. -/
  line : Nat
  /-- The trimmed line of code. -/
  context : List Char
deriving Repr

/-- A return statement and its expression. -/
def returnPattern : Pattern :=
  textStart ++ gap ++ "return" ++ space ++ group 1 dot.plusLazy ++ gap ++ opt ";" ++ gap ++ textEnd

/-- An assignment of a literal at the end of a line. -/
def assignmentPattern : Pattern :=
  boundary ++ group 1 word ++ gap ++ opt (":" ++ gap ++ (wordOr "<>[]").plus ++ gap) ++ opt ":" ++
    "=" ++ gap ++ group 2 (opt "-" ++ decimal) ++
    opt (opt "_" ++ one isAsciiLetter ++ wordChar.star) ++ gap ++ opt ";" ++ gap ++ textEnd

/-- What raises an error. -/
def throwPattern : Pattern :=
  boundary ++
    choice ["throw", "throws", "raise", "panic!", "Err" ++ gap ++ "(", "errors.New", "fmt.Errorf",
      "reject" ++ gap ++ "("]

/-- Whether a text begins like a number. -/
def beginsNumber (s : List Char) : Bool :=
  match s with
  | c :: _ => isAsciiDigit c || c == '-' || c == '.'
  | [] => false

/-- The number of a returned literal without blanks inside. -/
def returnedLiteral? (expression : List Char) : Option Float :=
  let s := trim expression
  if beginsNumber s && !s.any isBlank then readNumeric? s else none

/-- The value of a line that returns a number. -/
def returned? (stripped : List Char) : Option Float :=
  (returnPattern.find? stripped).bind fun m =>
    match evaluate? (m.group 1) with
    | some x => some x
    | none => returnedLiteral? (m.group 1)

/-- The value of a line that gives a literal to a name. -/
def assigned? (stripped : List Char) : Option Float :=
  (assignmentPattern.find? stripped).bind fun m => Number.readFloat? (m.group 2)

/-- The values of one line. -/
def ofLine (line : List Char) (number : Nat) : List SourceValue :=
  let trimmed := trim line
  if trimmed.isEmpty || isComment trimmed then []
  else
    let stripped := stripLiterals line
    match returned? stripped with
    | some x => [⟨.returned, x, number, trimmed⟩]
    | none =>
      match assigned? stripped with
      | some x => [⟨.constant, x, number, trimmed⟩]
      | none => (literals line).map fun x => ⟨.calculation, x, number, trimmed⟩

/-- The values of a body whose first line has the given number. -/
def ofBody (body : List Char) (first : Nat) : List SourceValue :=
  ((lines body).zipIdx first).flatMap fun (line, number) => ofLine line number

/-- Whether a line outside comments raises an error. -/
def raises (body : List Char) : Bool :=
  (lines body).any fun line => !isComment (trim line) && throwPattern.found (stripLiterals line)

end Adjudicator.Value
