import Adjudicator.Outline.Python.Expressions

/-!
# Statements of Python

Simple statements end at a semicolon or at the end of their line. The body of a compound statement
is either on its line or a block of lines that are indented more deeply; the block ends before the
first line that is indented less.
-/

namespace Adjudicator.Outline.Python

open Text Parse

/-- Width of the blanks at the start of a line. -/
def indentWidth (s : List Char) : Nat :=
  (s.takeWhile isSpace).foldl
    (fun width c => if c = '\t' then width + 8 else if c = ' ' then width + 1 else 0) 0

/-- Moves behind lines that are blank or only a comment. -/
def blankLines : Nat → Parse Unit
  | 0 => pure ()
  | fuel + 1 => do
    let here ← ahead
    match here.dropWhile isSpace with
    | '\n' :: _ | '#' :: _ =>
      discard <| takeWhile (· != '\n')
      if (← ahead).isEmpty then pure ()
      else
        skip 1
        blankLines fuel
    | [] => discard <| takeWhile isSpace
    | _ => pure ()

/-- The width of the next line with code, from the start of a line; its blanks are read. Nothing
at the end of the text. -/
def lineIndent : Parse (Option Nat) := do
  blankLines ((← ahead).length + 1)
  let here ← ahead
  if here.isEmpty then return none
  else
    discard <| takeWhile isSpace
    return some (indentWidth here)

/-- The end of a line with the comment in front of it. -/
def lineEnd : Parse Unit := do
  lineGap
  discard <| attempt comment
  if !(← ahead).isEmpty then exactly "\n"

/-- Reads to the end of a simple statement without a look at what it says. -/
def skipStatement (depth : Nat) : Nat → Parse Unit
  | 0 => pure ()
  | fuel + 1 => do
    match ← ahead with
    | [] => pure ()
    | c :: rest =>
      if depth = 0 ∧ (c = '\n' ∨ c = ';' ∨ c = '#') then pure ()
      else
        skip (if c = '\\' ∧ rest.head? = some '\n' then 2 else 1)
        skipStatement
          (if c = '(' then depth + 1 else if c = ')' then depth - 1 else depth) fuel

/-- Reads a pattern of a case up to its colon or its condition. -/
def skipPattern (depth : Nat) : Nat → Parse Unit
  | 0 => failure
  | fuel + 1 => do
    lineGap
    let here ← ahead
    match here with
    | [] => failure
    | c :: rest =>
      if depth = 0 ∧ (c = ':' ∨ wordOf here = "if") then pure ()
      else if c = '"' ∨ c = '\'' then
        let text := rest.takeWhile (· != c)
        skip (text.length + 2)
        skipPattern depth fuel
      else
        require (depth != 0 || c != '\n')
        skip (max 1 (wordOf here).length)
        let opens := "([\x7b".toList.contains c
        let closes := ")]\x7d".toList.contains c
        skipPattern (if opens then depth + 1 else if closes then depth - 1 else depth) fuel

namespace Grammar

/-- What a generator gives. -/
def yielding (g : Grammar) : Parse Tree := do
  lineGap
  let start ← get
  g.keyword "yield"
  discard <| attempt (g.keyword "from")
  let e ← if ← endsHere then pure none else attempt g.expressions
  nodeFrom start .other e.toList

/-- The operators that change what they assign to. -/
def changing : List String :=
  ["+=", "-=", "*=", "/=", "@=", "//=", "%=", "**=", ">>=", "<<=", "&=", "^=", "|="]

/-- An assignment, or an expression as a statement. -/
def assignment (g : Grammar) : Nat → Parse Tree
  | 0 => failure
  | fuel + 1 => do
    let left ← firstOf [g.yielding, g.expressions]
    let operator ← Python.operatorAhead g.enclosed
    if operator == "=" then
      g.symbol "="
      let right ← assignment g fuel
      return nodeAround .assignment left right [left.as .name, right.as .value]
    else if changing.contains operator then
      g.symbol operator
      let right ← assignment g fuel
      return nodeAround .other left right [left, right]
    else if operator == ":" then
      match ← attempt (g.symbol ":" *> g.expression) with
      | none => return left
      | some type =>
        match ← attempt (g.symbol "=" *> assignment g fuel) with
        | none => return nodeAround .assignment left type [left.as .name, type]
        | some right =>
          return nodeAround .assignment left right [left.as .name, type, right.as .value]
    else return left

/-- A return statement. -/
def returning (g : Grammar) : Parse Tree := do
  let start ← get
  g.keyword "return"
  let e ← if ← endsHere then pure none else some <$> g.expressions
  nodeFrom start .returning e.toList

/-- An assert statement. -/
def asserting (g : Grammar) : Parse Tree := do
  let start ← get
  g.keyword "assert"
  let e ← g.expression
  let others ← many (g.symbol "," *> g.expression)
  nodeFrom start .asserting (e :: others)

/-- An error that is raised. -/
def raising (g : Grammar) : Parse Tree := do
  let start ← get
  g.keyword "raise"
  let e ← if ← endsHere then pure none else some <$> g.expressions
  let source ← attempt (g.keyword "from" *> g.expression)
  nodeFrom start .other (e.toList ++ source.toList)

/-- Places that are given up. -/
def deleting (g : Grammar) : Parse Tree := do
  let start ← get
  g.keyword "del"
  let e ← g.expressions
  nodeFrom start .other [e]

/-- A statement of which only the end matters. -/
def passing : Parse Tree := do
  let start ← get
  skipStatement 0 start.rest.length
  nodeFrom start .other []

/-- A name for a type. -/
def typeAlias (g : Grammar) : Parse Tree := do
  let start ← get
  g.keyword "type"
  discard <| identifier false
  discard <| attempt do
    require (← g.sees "[")
    discard g.bracketed
  g.symbol "="
  let e ← g.expression
  nodeFrom start .other [e]

/-- A simple statement. -/
def simple (g : Grammar) : Parse Tree := do
  lineGap
  match wordOf (← ahead) with
  | "return" => g.returning
  | "assert" => g.asserting
  | "raise" => g.raising
  | "del" => g.deleting
  | "import" | "from" | "global" | "nonlocal" | "pass" | "break" | "continue" => passing
  | "type" => firstOf [g.typeAlias, g.assignment (← ahead).length]
  | _ => g.assignment (← ahead).length

/-- The simple statements of a line. -/
def simpleLine (g : Grammar) : Parse (List Tree) := do
  let items ← separated (g.symbol ";") ended
  discard <| attempt (g.symbol ";")
  lineEnd
  return items
where
  /-- A simple statement with nothing but an end behind it. -/
  ended : Parse Tree := do
    let t ← g.simple
    require (← endsHere)
    return t

/-- The body of a compound statement whose lines are indented by `indent`. -/
def body (g : Grammar) (indent : Nat) : Parse Tree := do
  g.symbol ":"
  match ← attempt lineEnd with
  | none =>
    let start ← get
    let items ← g.simpleLine
    nodeFrom start .other items
  | some _ =>
    let start ← get
    let next ← peek lineIndent
    match next with
    | some width => if indent < width then g.parse (.statements width) else nodeFrom start .other []
    | none => nodeFrom start .other []

/-- The next part of a compound statement, on a line with the same indentation. -/
def follow (indent : Nat) (part : Parse (List Tree)) : Parse (List Tree) := do
  let width ← lineIndent
  require (width == some indent)
  part

/-- A condition with its body. -/
def branch (g : Grammar) (indent : Nat) (word : String) : Parse (List Tree) := do
  g.keyword word
  let condition ← g.expression
  let body ← g.body indent
  return [condition, body]

/-- A word with its body. -/
def part (g : Grammar) (indent : Nat) (word : String) : Parse (List Tree) := do
  g.keyword word
  return [← g.body indent]

/-- A choice between bodies. -/
def branching (g : Grammar) (indent : Nat) : Parse (List Tree) := do
  let first ← g.branch indent "if"
  let others ← many (follow indent (g.branch indent "elif"))
  let last ← attempt (follow indent (g.part indent "else"))
  return first ++ others.flatten ++ last.getD []

/-- A loop with a condition. -/
def whileLoop (g : Grammar) (indent : Nat) : Parse (List Tree) := do
  let first ← g.branch indent "while"
  let last ← attempt (follow indent (g.part indent "else"))
  return first ++ last.getD []

/-- A loop over items. -/
def forLoop (g : Grammar) (indent : Nat) : Parse (List Tree) := do
  g.keyword "for"
  let item ← g.listed (firstOf [g.symbol "*" *> g.operand 14, g.operand 14])
  g.keyword "in"
  let subject ← g.expressions
  let body ← g.body indent
  let last ← attempt (follow indent (g.part indent "else"))
  return [item, subject, body] ++ last.getD []

/-- What is done when a statement fails. -/
def handler (g : Grammar) (indent : Nat) : Parse (List Tree) := do
  g.keyword "except"
  discard <| attempt (g.symbol "*")
  let kinds ← attempt g.expressions
  let name ← attempt (g.keyword "as" *> g.operand signed)
  let body ← g.body indent
  return kinds.toList ++ name.toList ++ [body]

/-- Statements with what is done when they fail. -/
def trying (g : Grammar) (indent : Nat) : Parse (List Tree) := do
  let first ← g.part indent "try"
  let handlers ← many (follow indent (g.handler indent))
  let other ← attempt (follow indent (g.part indent "else"))
  let last ← attempt (follow indent (g.part indent "finally"))
  return first ++ handlers.flatten ++ other.getD [] ++ last.getD []

/-- An object that a body is run with. -/
def resource (g : Grammar) : Parse Tree := do
  let e ← g.expression
  match ← attempt (g.asTarget e) with
  | some t => return t
  | none => return e

/-- A body that is run with objects. -/
def holding (g : Grammar) (indent : Nat) : Parse (List Tree) := do
  g.keyword "with"
  let items ← firstOf [enclosedItems, separated (g.symbol ",") g.resource]
  let body ← g.body indent
  return items ++ [body]
where
  /-- Objects in parentheses. -/
  enclosedItems : Parse (List Tree) := do
    g.symbol "("
    let items ← separated (g.inside.symbol ",") g.inside.resource
    discard <| attempt (g.inside.symbol ",")
    g.inside.symbol ")"
    require (← g.sees ":")
    return items

/-- A function. -/
def function (g : Grammar) (indent : Nat) : Parse (List Tree) := do
  discard <| attempt (g.keyword "async")
  g.keyword "def"
  discard <| identifier false
  let kinds ← attempt do
    require (← g.sees "[")
    g.bracketed
  g.symbol "("
  let items ← g.inside.parameters true
  g.inside.symbol ")"
  let result ← attempt (g.symbol "->" *> g.expression)
  let body ← g.body indent
  return kinds.toList ++ items ++ result.toList ++ [body]

/-- A class. -/
def classDefinition (g : Grammar) (indent : Nat) : Parse (List Tree) := do
  g.keyword "class"
  discard <| identifier false
  let kinds ← attempt do
    require (← g.sees "[")
    g.bracketed
  let parents ← attempt do
    g.symbol "("
    let items ← separated (g.inside.symbol ",") g.inside.argument
    discard <| attempt (g.inside.symbol ",")
    g.inside.symbol ")"
    return items
  let body ← g.body indent
  return kinds.toList ++ parents.getD [] ++ [body]

/-- A decorator in front of a definition. -/
def decorator (g : Grammar) : Parse (List Tree) := do
  g.symbol "@"
  let e ← g.expression
  lineEnd
  return [e]

/-- A definition with its decorators. -/
def decorated (g : Grammar) (indent : Nat) : Parse (List Tree) := do
  let first ← g.decorator
  let others ← many (follow indent g.decorator)
  let rest ← follow indent (firstOf [g.function indent, g.classDefinition indent])
  return first ++ others.flatten ++ rest

/-- One case of a match. -/
def matchCase (g : Grammar) (indent : Nat) : Parse (List Tree) := do
  g.keyword "case"
  skipPattern 0 ((← ahead).length + 1)
  let condition ← attempt (g.keyword "if" *> g.expression)
  let body ← g.body indent
  return condition.toList ++ [body]

/-- A choice among patterns. -/
def matching (g : Grammar) (indent : Nat) : Parse (List Tree) := do
  g.keyword "match"
  let subject ← g.expressions
  g.symbol ":"
  lineEnd
  match ← peek lineIndent with
  | none => failure
  | some width =>
    require (indent < width)
    let cases ← many (follow width (g.matchCase width))
    require !cases.isEmpty
    return subject :: cases.flatten

/-- A compound statement that begins with a word. -/
def compound (g : Grammar) (indent : Nat) (word : String) : Parse (List Tree) :=
  match word with
  | "if" => g.branching indent
  | "while" => g.whileLoop indent
  | "for" => g.forLoop indent
  | "try" => g.trying indent
  | "with" => g.holding indent
  | "def" => g.function indent
  | "class" => g.classDefinition indent
  | "match" => g.matching indent
  | "async" => firstOf [g.function indent, g.keyword "async" *> g.holding indent,
      g.keyword "async" *> g.forLoop indent]
  | _ => failure

/-- The statements of one line of a block, or a compound statement. -/
def statementsHere (g : Grammar) (indent : Nat) : Parse (List Tree) := do
  let width ← lineIndent
  match width with
  | none => failure
  | some width =>
    require (indent ≤ width)
    let word := wordOf (← ahead)
    if operatorOf (← ahead) == "@" then g.decorated width
    else firstOf [g.compound width word, g.simpleLine]

/-- The parser of a symbol, where `parse` parses the symbols inside it. -/
def symbolParser (parse : Symbol → Parse Tree) (symbol : Symbol) : Parse Tree :=
  match symbol with
  | .expression enclosed => Grammar.anyExpression ⟨enclosed, parse⟩
  | .operand level enclosed => Grammar.anyOperand ⟨enclosed, parse⟩ level
  | .statements indent => do
    let start ← get
    let items ← many (Grammar.statementsHere ⟨false, parse⟩ indent)
    nodeFrom start .other items.flatten

/-- The statements of a text, when the grammar accepts all of it. -/
def program? (text : List Char) : Option Tree :=
  let statements := knot symbolParser (12 * text.length + 40) (.statements 0)
  match statements ⟨text, 0, 0⟩ with
  | some (tree, place) =>
    match lineIndent place with
    | some (none, _) => some tree
    | _ => none
  | none => none

/-- What is made of a text; of a text with faults nothing is read. -/
def parsed (text : List Char) : Parsed :=
  ((program? text).map fun tree => Parsed.whole text [tree]).getD .unread

end Grammar

end Adjudicator.Outline.Python
