import Adjudicator.Outline.Script.Expressions

/-!
# Statements of scripts

Declarations, control flow and modules. What only concerns types is read and dropped; what a
returned value or a declared name is given is kept.
-/

namespace Adjudicator.Outline.Script.Grammar

open Parse

/-- A statement. -/
def statement (g : Grammar) : Parse Tree :=
  g.parse .statement

/-- Statements in braces. -/
def block (g : Grammar) : Parse Tree := do
  discard gap
  let start ← get
  symbol "\x7b"
  let items ← many g.statement
  symbol "\x7d"
  nodeFrom start .other items

/-- One declared name with its value. -/
def declarator (g : Grammar) : Parse Tree := do
  let name ← g.target
  if g.typed then
    discard <| attempt (symbol "!")
    g.annotated
  let value ← g.initializer
  nodeSince name .declarator (name.as .name :: value.toList)

/-- The words that declare names. -/
def declaringWords : List String :=
  ["let", "const", "var"]

/-- A declaration of names without its end. -/
def openDeclaration (g : Grammar) : Parse Tree := do
  discard gap
  let start ← get
  let word ← wordAhead
  require (declaringWords.contains word)
  keyword word
  let items ← separated (symbol ",") g.declarator
  require !items.isEmpty
  nodeFrom start (.declaration (word == "const")) items

/-- A declaration of names. -/
def nameDeclaration (g : Grammar) : Parse Tree := do
  let node ← g.openDeclaration
  statementEnd (node.children.getLast?.any fun d => (d.child? .value).isSome)
  return node

/-- A return statement. -/
def returning (g : Grammar) : Parse Tree := do
  discard gap
  let start ← get
  keyword "return"
  let here ← get
  if endsHere false (here.rest.length + 1) here then nodeFrom start .returning []
  else
    let comments ← gap
    match ← attempt (symbol ";") with
    | some _ => nodeFrom start .returning comments
    | none =>
      let e ← g.parse .expressions
      let node ← nodeFrom start .returning (comments ++ [e])
      statementEnd true
      return node

/-- A throw statement. -/
def throwing (g : Grammar) : Parse Tree := do
  discard gap
  let start ← get
  keyword "throw"
  let e ← g.parse .expressions
  statementEnd true
  nodeFrom start .other [e]

/-- A jump to the start or behind the end of a loop. -/
def jump (word : String) : Parse Tree := do
  discard gap
  let start ← get
  keyword word
  match ← attempt (statementEnd false) with
  | some _ => nodeFrom start .other []
  | none =>
    discard <| anyWord .other
    statementEnd false
    nodeFrom start .other []

/-- A choice between statements. -/
def branching (g : Grammar) : Parse Tree := do
  discard gap
  let start ← get
  keyword "if"
  let condition ← g.group
  let yes ← g.statement
  let no ← attempt (keyword "else" *> g.statement)
  nodeFrom start .other ([condition, yes] ++ no.toList)

/-- A loop with a condition in front. -/
def whileLoop (g : Grammar) (word : String) : Parse Tree := do
  discard gap
  let start ← get
  keyword word
  let condition ← g.group
  let body ← g.statement
  nodeFrom start .other [condition, body]

/-- A loop with a condition behind. -/
def doLoop (g : Grammar) : Parse Tree := do
  discard gap
  let start ← get
  keyword "do"
  let body ← g.statement
  keyword "while"
  let condition ← g.group
  discard <| attempt (symbol ";")
  nodeFrom start .other [body, condition]

/-- The head of a loop over the items or the keys of an object. -/
def iterationHead (g : Grammar) : Parse (List Tree) := do
  let word ← wordAhead
  if declaringWords.contains word then keyword word
  let item ← g.target
  firstOf [keyword "of", keyword "in"]
  let subject ← g.parse .expressions
  return [item, subject]

/-- The head of a loop over the items of a place that is no name. -/
def placeIterationHead (g : Grammar) : Parse (List Tree) := do
  let item ← g.parse (.operand 13)
  firstOf [keyword "of", keyword "in"]
  let subject ← g.parse .expressions
  return [item, subject]

/-- The head of a loop that counts. -/
def countingHead (g : Grammar) : Parse (List Tree) := do
  let first ← attempt (firstOf [g.openDeclaration, g.parse .expressions])
  symbol ";"
  let condition ← attempt (g.parse .expressions)
  symbol ";"
  let step ← attempt (g.parse .expressions)
  return first.toList ++ condition.toList ++ step.toList

/-- A loop with a head. -/
def forLoop (g : Grammar) : Parse Tree := do
  discard gap
  let start ← get
  keyword "for"
  discard <| attempt (keyword "await")
  symbol "("
  let head ←
    firstOf
      [g.iterationHead <* symbol ")", g.placeIterationHead <* symbol ")",
        g.countingHead <* symbol ")"]
  let body ← g.statement
  nodeFrom start .other (head ++ [body])

/-- One case of a switch. -/
def switchCase (g : Grammar) : Parse Tree := do
  discard gap
  let start ← get
  let subject ←
    firstOf
      [some <$> (keyword "case" *> g.parse .expressions), (fun _ => none) <$> keyword "default"]
  symbol ":"
  let items ← many do
    require !(["case", "default"].contains (← wordAhead))
    g.statement
  nodeFrom start .other (subject.toList ++ items)

/-- A choice among cases. -/
def switching (g : Grammar) : Parse Tree := do
  discard gap
  let start ← get
  keyword "switch"
  let subject ← g.group
  symbol "\x7b"
  let cases ← many g.switchCase
  symbol "\x7d"
  nodeFrom start .other (subject :: cases)

/-- Statements with what is done when they fail. -/
def trying (g : Grammar) : Parse Tree := do
  discard gap
  let start ← get
  keyword "try"
  let body ← g.block
  let caught ← attempt do
    keyword "catch"
    discard <| attempt do
      symbol "("
      discard g.target
      g.annotated
      symbol ")"
    g.block
  let last ← attempt (keyword "finally" *> g.block)
  require (caught.isSome || last.isSome)
  nodeFrom start .other (body :: (caught.toList ++ last.toList))

/-- A statement with a label. -/
def labeled (g : Grammar) : Parse Tree := do
  let name ← identifier
  symbol ":"
  let body ← g.statement
  nodeSince name .other [body]

/-- A function that is only declared. -/
def functionSignature (g : Grammar) : Parse Tree := do
  require g.typed
  discard gap
  let start ← get
  discard <| attempt (keyword "async")
  keyword "function"
  discard <| attempt (symbol "*")
  discard identifier
  discard g.signature
  statementEnd false
  nodeFrom start .other []

/-- An import of names. -/
def importing (g : Grammar) : Parse Tree := do
  discard gap
  let start ← get
  keyword "import"
  require !(["(", "."].contains (← operatorAhead))
  discard <| many (firstOf [discard (anyWord .other), mark ',', mark '*', balanced '\x7b'])
  match ← attempt (symbol "=") with
  | some _ => discard <| g.parse .expression
  | none => discard quotedText
  discard <| attempt (firstOf [keyword "with", keyword "assert"] *> balanced '\x7b')
  statementEnd false
  nodeFrom start .other []

/-- What stands behind `export default`. -/
def defaultExport (g : Grammar) : Parse Tree := do
  keyword "default"
  firstOf [declared, g.parse .expression <* statementEnd true]
where
  /-- A declaration. -/
  declared : Parse Tree := do
    let word ← wordAhead
    require (["function", "async", "class", "abstract", "interface"].contains word ||
      (← operatorAhead) == "@")
    g.statement

/-- An export of names or of a declaration. -/
def exporting (g : Grammar) : Parse Tree := do
  discard gap
  let start ← get
  keyword "export"
  let body ← firstOf [some <$> g.defaultExport, listed, all, assigned, named, some <$> g.statement]
  nodeFrom start .other body.toList
where
  /-- The module that names come from. -/
  source : Parse Unit := do
    keyword "from"
    discard quotedText
    discard <| attempt (firstOf [keyword "with", keyword "assert"] *> balanced '\x7b')
  /-- Names in braces. -/
  listed : Parse (Option Tree) := do
    discard <| attempt (keyword "type" *> require g.typed)
    balanced '\x7b'
    discard <| attempt source
    statementEnd false
    return none
  /-- All names of a module. -/
  all : Parse (Option Tree) := do
    discard <| attempt (keyword "type" *> require g.typed)
    symbol "*"
    discard <| attempt (keyword "as" *> firstOf [anyWord .other, quotedText])
    source
    statementEnd false
    return none
  /-- One expression that is the module. -/
  assigned : Parse (Option Tree) := do
    require g.typed
    symbol "="
    let e ← g.parse .expression
    statementEnd true
    return some e
  /-- A name for the module. -/
  named : Parse (Option Tree) := do
    require g.typed
    keyword "as"
    keyword "namespace"
    discard <| anyWord .other
    statementEnd false
    return none

/-- A name for a type. -/
def typeAlias (g : Grammar) : Parse Tree := do
  discard gap
  let start ← get
  keyword "type"
  discard <| anyWord .other
  discard <| attempt g.typeParameters
  symbol "="
  g.type
  statementEnd false
  nodeFrom start .other []

/-- An interface. -/
def interface (g : Grammar) : Parse Tree := do
  discard gap
  let start ← get
  keyword "interface"
  discard <| anyWord .other
  discard <| attempt g.typeParameters
  discard <| attempt do
    keyword "extends"
    separated (symbol ",") g.type
  balanced '\x7b'
  nodeFrom start .other []

/-- One name of an enumeration, which may have a value. -/
def enumerator (g : Grammar) : Parse Tree := do
  let name ← g.propertyName
  let value ← g.initializer
  nodeSince name .other value.toList

/-- An enumeration. -/
def enumeration (g : Grammar) : Parse Tree := do
  discard gap
  let start ← get
  discard <| attempt (keyword "const")
  keyword "enum"
  discard <| anyWord .other
  symbol "\x7b"
  let items ← separated (symbol ",") g.enumerator
  discard <| attempt (symbol ",")
  symbol "\x7d"
  nodeFrom start .other items

/-- A module inside a text. -/
def moduleBlock (g : Grammar) : Parse Tree := do
  discard gap
  let start ← get
  firstOf
    [firstOf [keyword "namespace", keyword "module"] *> firstOf [discard quotedText, path],
      keyword "global"]
  let body ← g.block
  nodeFrom start .other [body]

/-- A declaration of something that is defined elsewhere. -/
def ambient (g : Grammar) : Parse Tree := do
  discard gap
  let start ← get
  keyword "declare"
  require !(← lineEndAhead)
  let body ← g.statement
  nodeFrom start .other [body]

/-- An expression as a statement. -/
def expressionStatement (g : Grammar) : Parse Tree := do
  let e ← g.parse .expressions
  statementEnd true
  return e

/-- A statement that begins with a word that only types use, or with any other word. -/
def typedStatement (g : Grammar) (word : String) : Parse Tree := do
  require g.typed
  match word with
  | "type" => g.typeAlias
  | "interface" => g.interface
  | "enum" => g.enumeration
  | "const" => g.enumeration
  | "namespace" | "module" | "global" => g.moduleBlock
  | "declare" => g.ambient
  | "abstract" => g.classDefinition
  | _ => failure

/-- A statement that begins with a word. -/
def wordStatement (g : Grammar) (word : String) : Parse Tree :=
  match word with
  | "let" | "const" | "var" =>
    firstOf [g.typedStatement word, g.nameDeclaration, g.expressionStatement]
  | "return" => g.returning
  | "throw" => g.throwing
  | "break" | "continue" => jump word
  | "debugger" => jump word
  | "if" => g.branching
  | "while" | "with" => g.whileLoop word
  | "do" => g.doLoop
  | "for" => g.forLoop
  | "switch" => g.switching
  | "try" => g.trying
  | "function" => firstOf [g.function, g.functionSignature]
  | "async" => firstOf [g.function, g.functionSignature, g.labeled, g.expressionStatement]
  | "class" => g.classDefinition
  | "import" => firstOf [g.importing, g.expressionStatement]
  | "export" => g.exporting
  | _ => firstOf [g.typedStatement word, g.labeled, g.expressionStatement]

/-- A statement. -/
def anyStatement (g : Grammar) : Parse Tree := do
  discard gap
  let word := wordOf (← ahead)
  if !word.isEmpty then g.wordStatement word
  else
    match (← ahead).head? with
    | some '{' => g.block
    | some ';' =>
      let start ← get
      symbol ";"
      nodeFrom start .other []
    | some '@' => firstOf [decoratedExport, g.classDefinition]
    | _ => g.expressionStatement
where
  /-- An exported class with decorators in front. -/
  decoratedExport : Parse Tree := do
    let marks ← many g.decorator
    let node ← g.exporting
    return nodeAround .other (marks.headD node) node (marks ++ [node])

/-- The parser of a symbol, where `parse` parses the symbols inside it. -/
def symbolParser (typed : Bool) (parse : Symbol → Parse Tree) (symbol : Symbol) : Parse Tree :=
  let g : Grammar := ⟨typed, parse⟩
  match symbol with
  | .statement => g.anyStatement
  | .block => g.block
  | .expressions => g.expressions
  | .expression => g.expression
  | .operand level => g.operand level
  | .unary => g.unary
  | .construction => g.construction
  | .element => g.element
  | .type => do
    let start ← get
    g.operatorType
    nodeFrom start .other []

/-- The first line of a script that names the program to run it. -/
def interpreterLine : Parse Unit := do
  exactly "#!"
  discard <| takeWhile (· != '\n')

/-- The statements of a text, when the grammar accepts all of it. -/
def program? (typed : Bool) (text : List Char) : Option (List Tree) :=
  let statement := knot (symbolParser typed) (12 * text.length + 40) .statement
  match (attempt interpreterLine *> many statement <* gap) ⟨text, 0, 0⟩ with
  | some (items, place) => if place.rest.isEmpty then some items else none
  | none => none

/-- What is made of a text; of a text with faults nothing is read. -/
def parsed (typed : Bool) (text : List Char) : Parsed :=
  ((program? typed text).map (Parsed.whole text)).getD .unread

end Adjudicator.Outline.Script.Grammar
