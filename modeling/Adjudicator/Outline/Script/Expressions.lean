import Adjudicator.Outline.Script.Markup
import Adjudicator.Outline.Script.Types

/-!
# Expressions of scripts

Operands with their unary and binary operators, calls, properties, literals and functions. An
operator of a higher level binds its operands more tightly.
-/

namespace Adjudicator.Outline.Script.Grammar

open Parse

/-- Level of a binary operator. -/
def level? (operator : String) : Option Nat :=
  match operator with
  | "??" => some 1
  | "||" => some 2
  | "&&" => some 3
  | "|" => some 4
  | "^" => some 5
  | "&" => some 6
  | "==" | "!=" | "===" | "!==" => some 7
  | "<" | "<=" | ">" | ">=" | "in" | "instanceof" => some 8
  | "<<" | ">>" | ">>>" => some 9
  | "+" | "-" => some 10
  | "*" | "/" | "%" => some 11
  | "**" => some 12
  | _ => none

/-- The assignment operators. -/
def assignmentOperators : List String :=
  ["=", "+=", "-=", "*=", "/=", "%=", "**=", "<<=", ">>=", ">>>=", "&=", "|=", "^=", "&&=", "||=",
    "??="]

/-- The binary operator behind the gap; nothing is read. -/
def binaryAhead : Parse String := do
  let word ← wordAhead
  if word == "in" || word == "instanceof" then return word else operatorAhead

/-- A node for an operator. -/
def operatorNode (operator : String) : Parse Tree := do
  discard gap
  let start ← get
  skip operator.length
  return (← nodeFrom start .operator []).as .operator

/-- An item of a list, which may be spread. -/
def spreadable (g : Grammar) : Parse Tree := do
  if ← seesSymbol "..." then
    discard gap
    let start ← get
    symbol "..."
    let e ← g.parse .expression
    nodeFrom start .other [e]
  else g.parse .expression

/-- The arguments of a call. -/
def arguments (g : Grammar) : Parse Tree := do
  discard gap
  let start ← get
  symbol "("
  let items ← separated (symbol ",") g.spreadable
  discard <| attempt (symbol ",")
  symbol ")"
  return (← nodeFrom start .arguments items).as .arguments

/-- A part of a template: an expression, an escape or another character. -/
def templatePart (g : Grammar) : Parse (Option Tree) := do
  match ← ahead with
  | '$' :: '{' :: _ =>
    skip 2
    let e ← g.parse .expressions
    mark '\x7d'
    return some e
  | '\\' :: _ :: _ =>
    skip 2
    return none
  | c :: _ =>
    require (c != Code.backtick)
    skip 1
    return none
  | [] => failure

/-- A template. -/
def template (g : Grammar) : Parse Tree := do
  discard gap
  let start ← get
  require (start.rest.head? == some Code.backtick)
  skip 1
  let parts ← many g.templatePart
  require ((← ahead).head? == some Code.backtick)
  skip 1
  nodeFrom start .other (parts.filterMap id)

/-- The name of a property. -/
def propertyName (g : Grammar) : Parse Tree := do
  discard gap
  let word := wordOf (← ahead)
  if !word.isEmpty then anyWord .other
  else
    let start ← get
    match start.rest.head? with
    | some '#' =>
      skip 1
      discard <| anyWord .other
      nodeFrom start .other []
    | some '[' =>
      skip 1
      let e ← g.parse .expression
      symbol "]"
      nodeFrom start .other [e]
    | _ => firstOf [quotedText, number]

/-- A place that is assigned to: a name or a list or set of places. -/
def target (g : Grammar) : Parse Tree := do
  discard gap
  match (← ahead).head? with
  | some '[' | some '{' => g.parse (.operand 13)
  | _ => identifier

/-- Words before the name of a parameter. -/
def parameterModifiers : List String :=
  ["public", "private", "protected", "readonly", "override"]

/-- A decorator. -/
def decorator (g : Grammar) : Parse Tree := do
  mark '@'
  g.parse (.operand 13)

/-- A value behind an equals sign, where there is one. -/
def initializer (g : Grammar) : Parse (Option Tree) :=
  attempt do
    symbol "="
    return (← g.parse .expression).as .value

/-- A parameter of a function. -/
def parameter (g : Grammar) : Parse Tree := do
  let marks ← many g.decorator
  if g.typed then
    discard <| many do
      let word ← wordAhead
      require (parameterModifiers.contains word)
      keyword word
      let next ← operatorAhead
      require (!(← wordAhead).isEmpty || next == "[" || next == "\x7b")
  discard <| attempt (symbol "...")
  let name ← firstOf [g.target, anyWord .other]
  if g.typed then discard <| attempt (symbol "?")
  g.annotated
  let value ← g.initializer
  return nodeAround .other name (value.getD name) (marks ++ name :: value.toList)

/-- The parameters of a function. -/
def parameters (g : Grammar) : Parse Tree := do
  discard gap
  let start ← get
  symbol "("
  let items ← separated (symbol ",") g.parameter
  discard <| attempt (symbol ",")
  symbol ")"
  nodeFrom start .other items

/-- Type parameters, parameters and result type of a function. -/
def signature (g : Grammar) : Parse Tree := do
  if g.typed then discard <| attempt g.typeParameters
  let items ← g.parameters
  g.annotated
  return items

/-- An arrow function with a single name or with a signature. -/
def arrow (g : Grammar) : Parse Tree := do
  discard gap
  let start ← get
  discard <| attempt do
    keyword "async"
    require !(← lineEndAhead)
    require !(← seesSymbol "=>")
  let items ← firstOf [identifier, g.signature]
  symbol "=>"
  let body ← if ← seesSymbol "\x7b" then g.parse .block else g.parse .expression
  nodeFrom start .other [items, body]

/-- A function behind its modifiers: keyword, name, signature and body. -/
def function (g : Grammar) : Parse Tree := do
  discard gap
  let start ← get
  discard <| attempt (keyword "async")
  keyword "function"
  discard <| attempt (symbol "*")
  let name ← attempt identifier
  let items ← g.signature
  let body ← g.parse .block
  nodeFrom start .other (name.toList ++ [items, body])

/-- An expression in parentheses. -/
def group (g : Grammar) : Parse Tree := do
  discard gap
  let start ← get
  symbol "("
  let comments ← gap
  let e ← g.parse .expressions
  if g.typed then g.annotated
  symbol ")"
  nodeFrom start .grouping (comments ++ [e])

/-- A list. -/
def listLiteral (g : Grammar) : Parse Tree := do
  discard gap
  let start ← get
  symbol "["
  let items ← many (firstOf [(fun _ => none) <$> symbol ",", some <$> g.spreadable])
  symbol "]"
  nodeFrom start .collection (items.filterMap id)

/-- A method of a set of named values. -/
def methodEntry (g : Grammar) : Parse Tree := do
  discard gap
  let start ← get
  discard <| attempt (modifierOf ["async", "get", "set"])
  discard <| attempt (symbol "*")
  let name ← g.propertyName
  let items ← g.signature
  let body ← g.parse .block
  nodeFrom start .other [name, items, body]
where
  /-- One of several words, when the name of a method follows. -/
  modifierOf (words : List String) : Parse Unit := do
    let word ← wordAhead
    require (words.contains word)
    keyword word
    let next ← operatorAhead
    require (["(", ":", ",", "=", "\x7d", "<"].all (· != next))

/-- An entry with a name and a value, or a name alone. -/
def pairEntry (g : Grammar) : Parse Tree := do
  let name ← g.propertyName
  if ← seesSymbol ":" then
    symbol ":"
    let value ← g.parse .expression
    nodeSince name .other [name, value]
  else
    let value ← g.initializer
    nodeSince name .other (name :: value.toList)

/-- A set of named values. -/
def setLiteral (g : Grammar) : Parse Tree := do
  discard gap
  let start ← get
  symbol "\x7b"
  let items ← separated (symbol ",") (firstOf [g.methodEntry, spreadEntry, g.pairEntry])
  discard <| attempt (symbol ",")
  symbol "\x7d"
  nodeFrom start .collection items
where
  /-- An entry that spreads another set. -/
  spreadEntry : Parse Tree := do
    require (← seesSymbol "...")
    g.spreadable

/-- Words before the name of a class member. -/
def memberModifiers : List String :=
  ["public", "private", "protected", "static", "override", "readonly", "abstract", "declare",
    "accessor", "async", "get", "set"]

/-- One modifier, when the name of a member follows. -/
def memberModifier (g : Grammar) : Parse Unit := do
  let word ← wordAhead
  require (memberModifiers.contains word)
  require (g.typed || ["static", "async", "get", "set"].contains word)
  keyword word
  let next ← operatorAhead
  require (["(", "=", ";", ":", "?", "!", "\x7d", ",", "<", ""].all (· != next))

/-- What follows the name of a method. -/
def methodRest (g : Grammar) : Parse (List Tree) := do
  let items ← g.signature
  if ← seesSymbol "\x7b" then return [items, ← g.parse .block]
  else
    require g.typed
    firstOf [symbol ",", statementEnd false]
    return [items]

/-- A member with a name. -/
def namedMember (g : Grammar) : Parse Tree := do
  discard gap
  let start ← get
  let marks ← many g.decorator
  discard <| many g.memberModifier
  discard <| attempt (symbol "*")
  let name ← g.propertyName
  if g.typed then discard <| attempt (firstOf [symbol "?", symbol "!"])
  let next ← operatorAhead
  if next == "(" || next == "<" then
    let rest ← g.methodRest
    nodeFrom start .other (marks ++ name :: rest)
  else
    g.annotated
    let value ← g.initializer
    let node ← nodeFrom start .field (marks ++ name.as .name :: value.toList)
    if g.typed then firstOf [symbol ",", statementEnd value.isSome] else statementEnd value.isSome
    return node

/-- A member of a class. -/
def classMember (g : Grammar) : Parse Tree :=
  firstOf [emptyMember, staticBlock, indexMember, g.namedMember]
where
  /-- A semicolon between members. -/
  emptyMember : Parse Tree := do
    let start ← get
    symbol ";"
    nodeFrom start .other []
  /-- Statements that run once. -/
  staticBlock : Parse Tree := do
    keyword "static"
    g.parse .block
  /-- The type of all members. -/
  indexMember : Parse Tree := do
    require g.typed
    discard gap
    let start ← get
    discard <| many g.memberModifier
    symbol "["
    discard <| anyWord .other
    symbol ":"
    g.type
    symbol "]"
    g.annotated
    firstOf [symbol ",", statementEnd false]
    nodeFrom start .other []

/-- The classes and interfaces behind the name of a class. -/
def heritage (g : Grammar) : Parse (List Tree) := do
  let parents ← attempt do
    keyword "extends"
    let e ← g.parse (.operand 13)
    if g.typed then discard <| attempt g.typeArguments
    return e
  if g.typed then
    discard <| attempt do
      keyword "implements"
      separated (symbol ",") g.type
  return parents.toList

/-- A class. -/
def classDefinition (g : Grammar) : Parse Tree := do
  discard gap
  let start ← get
  let marks ← many g.decorator
  if g.typed then discard <| attempt (keyword "abstract")
  keyword "class"
  let name ← attempt do
    require !(["extends", "implements"].contains (← wordAhead))
    anyWord (if g.typed then .other else .identifier)
  if g.typed then discard <| attempt g.typeParameters
  let parents ← g.heritage
  symbol "\x7b"
  let members ← many g.classMember
  symbol "\x7d"
  nodeFrom start .other (marks ++ name.toList ++ parents ++ members)

/-- A construction with `new`. -/
def construction (g : Grammar) : Parse Tree := do
  discard gap
  let start ← get
  keyword "new"
  let subject ←
    if ← seesWord "new" then g.parse .construction else g.parse (.operand 14)
  if g.typed then discard <| attempt g.typeArguments
  let items ← if ← seesSymbol "(" then some <$> g.arguments else pure none
  nodeFrom start .other (subject :: items.toList)

/-- The words that are values of their own. -/
def valueWords : List String :=
  ["this", "super", "true", "false", "null"]

/-- An operand that starts with a word. -/
def wordOperand (g : Grammar) (word : String) : Parse Tree :=
  match word with
  | "function" => g.function
  | "class" => g.classDefinition
  | "new" => firstOf [metaProperty "new", g.construction]
  | "import" => firstOf [metaProperty "import", anyWord .other]
  | "async" => firstOf [g.function, identifier]
  | _ => if valueWords.contains word then anyWord .other else identifier
where
  /-- A property of a keyword. -/
  metaProperty (word : String) : Parse Tree := do
    discard gap
    let start ← get
    keyword word
    symbol "."
    discard <| anyWord .other
    nodeFrom start .other []

/-- A type in angle brackets in front of an expression. -/
def assertedType (g : Grammar) : Parse Tree := do
  discard gap
  let start ← get
  mark '<'
  g.type
  mark '>'
  let e ← g.parse .unary
  nodeFrom start .other [e]

/-- An operand without what may follow it. -/
def primary (g : Grammar) : Parse Tree := do
  discard gap
  let word := wordOf (← ahead)
  if !word.isEmpty then g.wordOperand word
  else
    match (← ahead).head? with
    | some '(' => g.group
    | some '[' => g.listLiteral
    | some '{' => g.setLiteral
    | some '/' => slashedPattern
    | some '<' => if g.typed then g.assertedType else g.parse .element
    | some '#' => g.propertyName
    | some '@' => g.classDefinition
    | some c => if c = Code.backtick then g.template else firstOf [quotedText, number]
    | none => failure

/-- The name behind a point. -/
def propertyOf (e : Tree) : Parse Tree := do
  firstOf [symbol ".", symbol "?."]
  let start ← (discard gap) *> get
  discard <| attempt (mark '#')
  discard <| anyWord .other
  let name ← nodeFrom start .other []
  nodeSince e .member [e.as .object, name.as .property]

/-- The item in brackets. -/
def itemOf (g : Grammar) (e : Tree) : Parse Tree := do
  discard <| attempt (symbol "?.")
  symbol "["
  let i ← g.parse .expressions
  symbol "]"
  nodeSince e .element [e.as .object, i]

/-- The call of an operand. -/
def callOf (g : Grammar) (e : Tree) : Parse Tree := do
  discard <| attempt (symbol "?.")
  if g.typed then
    discard <| attempt do
      g.typeArguments
      require (← seesSymbol "(")
  let items ← g.arguments
  nodeSince e .call [e.as .function, items]

/-- The call of an operand with a template. -/
def templateOf (g : Grammar) (e : Tree) : Parse Tree := do
  let t ← g.template
  nodeSince e .call [e.as .function, t.as .arguments]

/-- An operand that is asserted to be present. -/
def presentOf (g : Grammar) (e : Tree) : Parse Tree := do
  require g.typed
  require !(← lineEndAhead)
  symbol "!"
  nodeSince e .element [e]

/-- An operand and what follows it, with calls when `calls`. -/
def extended (g : Grammar) (calls : Bool) : Nat → Tree → Parse Tree
  | 0, e => pure e
  | fuel + 1, e => do
    let withCalls := if calls then [g.callOf e, g.templateOf e] else []
    match ← attempt (firstOf ([propertyOf e, g.itemOf e, g.presentOf e] ++ withCalls)) with
    | some longer => extended g calls fuel longer
    | none => pure e

/-- An operand with its properties, items and calls. -/
def chain (g : Grammar) (calls : Bool) : Parse Tree := do
  let e ← g.primary
  g.extended calls (← ahead).length e

/-- An operand that may be counted up or down. -/
def counted (g : Grammar) : Parse Tree := do
  let e ← g.chain true
  if ← lineEndAhead then return e
  else
    match ← attempt (firstOf [symbol "++", symbol "--"]) with
    | some _ => nodeSince e .other [e]
    | none => return e

/-- A unary operator in front of an operand. -/
def signed (g : Grammar) (operator : String) (form : Form) : Parse Tree := do
  discard gap
  let start ← get
  if (operator.toList.head?.any isNameStart) then keyword operator else symbol operator
  let comments ← gap
  let e ← g.parse .unary
  nodeFrom start form (comments ++ [e])

/-- An operand with the unary operators in front of it. -/
def unary (g : Grammar) : Parse Tree := do
  match ← wordAhead with
  | "typeof" => g.signed "typeof" .other
  | "void" => g.signed "void" .other
  | "delete" => g.signed "delete" .other
  | "await" => firstOf [g.signed "await" .awaiting, g.counted]
  | _ =>
    let operator ← operatorAhead
    if ["!", "~", "-", "+", "++", "--"].contains operator then g.signed operator .other
    else g.counted

/-- A type behind an operand. -/
def typedOperand (g : Grammar) (e : Tree) : Parse Tree := do
  require g.typed
  require !(← lineEndAhead)
  firstOf [keyword "as", keyword "satisfies"]
  g.type
  nodeSince e .other [e]

/-- An operand and the operators of at least a level behind it. -/
def joined (g : Grammar) (level : Nat) : Nat → Tree → Parse Tree
  | 0, e => pure e
  | fuel + 1, e => do
    let operator ← binaryAhead
    match level? operator with
    | some found =>
      if found < level then pure e
      else
        let node ← operatorNode operator
        let right ← g.parse (.operand (if operator == "**" then found else found + 1))
        joined g level fuel (nodeAround .binary e right [e, node, right])
    | none =>
      if level ≤ 8 then
        match ← attempt (g.typedOperand e) with
        | some t => joined g level fuel t
        | none => pure e
      else pure e

/-- An operand of the operators of at least a level. Levels above those of the operators are
operands with and without calls. -/
def operand (g : Grammar) (level : Nat) : Parse Tree := do
  if level = 13 then g.chain true
  else if 13 < level then g.chain false
  else
    let e ← g.parse .unary
    g.joined level (← ahead).length e

/-- Whether something can be assigned to an expression. -/
def assignable (e : Tree) : Bool :=
  match e.form with
  | .identifier | .member | .element | .collection | .grouping => true
  | _ => false

/-- A choice between two expressions, or only its condition. What looks like the result type of a
function may be the second expression. -/
def conditional (g : Grammar) : Parse Tree := do
  let condition ← g.parse (.operand 1)
  match ← attempt (symbol "?") with
  | none => return condition
  | some _ =>
    let (yes, no) ← firstOf [choices (g.parse .expression), choices g.group]
    return nodeAround .other condition no [condition, yes, no]
where
  /-- The two expressions. -/
  choices (first : Parse Tree) : Parse (Tree × Tree) := do
    let yes ← first
    symbol ":"
    return (yes, ← g.parse .expression)

/-- An assignment, or only its left side. -/
def assignment (g : Grammar) : Parse Tree := do
  let left ← g.conditional
  let next ← attempt do
    let operator ← operatorAhead
    require (assignmentOperators.contains operator && assignable left)
    symbol operator
  match next with
  | none => return left
  | some _ =>
    let right ← g.parse .expression
    return nodeAround .other left right [left, right]

/-- What a generator gives. -/
def yielded (g : Grammar) : Parse Tree := do
  discard gap
  let start ← get
  keyword "yield"
  discard <| attempt (symbol "*")
  let e ← if ← lineEndAhead then pure none else attempt (g.parse .expression)
  nodeFrom start .other e.toList

/-- One expression. -/
def expression (g : Grammar) : Parse Tree :=
  firstOf [g.arrow, g.yielded, g.assignment]

/-- Expressions with commas between them. -/
def expressions (g : Grammar) : Parse Tree := do
  let first ← g.parse .expression
  let others ← many (symbol "," *> g.parse .expression)
  match others.getLast? with
  | none => return first
  | some last => return nodeAround .other first last (first :: others)

end Adjudicator.Outline.Script.Grammar
