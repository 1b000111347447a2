import Adjudicator.Outline.Python.Token

/-!
# Expressions of Python

Operands with their unary and binary operators, comparisons, calls, attributes, literals and
comprehensions. An operator of a higher level binds its operands more tightly.
-/

namespace Adjudicator.Outline.Python

open Text Parse

/-- A symbol of the grammar. -/
inductive Symbol where
  /-- One expression. -/
  | expression (enclosed : Bool)
  /-- An operand of the operators of at least a level. -/
  | operand (level : Nat) (enclosed : Bool)
  /-- The statements of a block whose lines are indented by at least a width. -/
  | statements (indent : Nat)
deriving DecidableEq, Repr

/-- The parsers of the symbols, and whether they stand inside brackets. -/
structure Grammar where
  /-- Whether a line end is a blank. -/
  enclosed : Bool
  /-- The parser of each symbol. -/
  parse : Symbol → Parse Tree

namespace Grammar

/-- The grammar inside brackets. -/
def inside (g : Grammar) : Grammar :=
  { g with enclosed := true }

/-- One expression. -/
def expression (g : Grammar) : Parse Tree :=
  g.parse (.expression g.enclosed)

/-- An operand of the operators of at least a level. -/
def operand (g : Grammar) (level : Nat) : Parse Tree :=
  g.parse (.operand level g.enclosed)

/-- Reads an operator or bracket. -/
def symbol (g : Grammar) (s : String) : Parse Unit :=
  Python.symbol g.enclosed s

/-- Reads a given word. -/
def keyword (g : Grammar) (s : String) : Parse Unit :=
  Python.keyword g.enclosed s

/-- Whether an operator comes next. -/
def sees (g : Grammar) (s : String) : Parse Bool :=
  wouldRead (g.symbol s)

/-- Whether a given word comes next. -/
def seesWord (g : Grammar) (s : String) : Parse Bool :=
  wouldRead (g.keyword s)

/-- Level of a binary operator. -/
def level? (operator : String) : Option Nat :=
  match operator with
  | "|" => some 14
  | "&" => some 15
  | "^" => some 16
  | "<<" | ">>" => some 17
  | "+" | "-" => some 18
  | "*" | "@" | "/" | "%" | "//" => some 19
  | "**" => some 21
  | _ => none

/-- Level of comparisons. -/
def comparing : Nat :=
  13

/-- Level of the operand of an operator in front. -/
def signed : Nat :=
  21

/-- An item that may be spread. -/
def spreadable (g : Grammar) : Parse Tree := do
  gap g.enclosed
  let start ← get
  match ← attempt (firstOf [g.symbol "**", g.symbol "*"]) with
  | some _ =>
    let e ← g.expression
    nodeFrom start .other [e]
  | none => g.expression

/-- What a name in parentheses or brackets stands for while an expression goes on. -/
def asTarget (g : Grammar) (e : Tree) : Parse Tree := do
  g.keyword "as"
  let t ← g.operand signed
  return nodeAround .other e t [e, t]

/-- Items with commas between and perhaps behind them, as one node when there is a comma. -/
def listed (g : Grammar) (item : Parse Tree) : Parse Tree := do
  let first ← item
  let others ← many do
    g.symbol ","
    require (g.enclosed || !(← endsHere))
    item
  let comma ← attempt (g.symbol ",")
  if others.isEmpty && comma.isNone then return first else nodeSince first .other (first :: others)

/-- Expressions with commas between them. -/
def expressions (g : Grammar) : Parse Tree :=
  g.listed g.spreadable

/-- One `for` or `if` of a comprehension. -/
def clause (g : Grammar) : Parse Tree := do
  gap g.enclosed
  let start ← get
  match ← attempt (g.keyword "if") with
  | some _ =>
    let e ← g.operand 10
    nodeFrom start .other [e]
  | none =>
    discard <| attempt (g.keyword "async")
    g.keyword "for"
    let item ← g.listed (firstOf [star, g.operand 14])
    g.keyword "in"
    let subject ← g.operand 10
    nodeFrom start .other [item, subject]
where
  /-- A place that takes several items. -/
  star : Parse Tree := do
    g.symbol "*"
    g.operand 14

/-- The clauses of a comprehension, at least one. -/
def clauses (g : Grammar) : Parse (List Tree) := do
  require ((← g.seesWord "for") || (← g.seesWord "async"))
  many g.clause

/-- An expression in parentheses: a group, a tuple or a generator. -/
def parenthesized (g : Grammar) : Parse Tree := do
  let start ← get
  let g := g.inside
  g.symbol "("
  let items ← attempt (firstOf [yielding g, g.listed (item g)])
  let more ← attempt g.clauses
  g.symbol ")"
  nodeFrom start .other (items.toList ++ more.getD [])
where
  /-- An item that may be given a name. -/
  item (g : Grammar) : Parse Tree := do
    let e ← g.spreadable
    match ← attempt (g.asTarget e) with
    | some t => return t
    | none => return e
  /-- What a generator gives. -/
  yielding (g : Grammar) : Parse Tree := do
    gap g.enclosed
    let start ← get
    g.keyword "yield"
    discard <| attempt (g.keyword "from")
    let e ← attempt g.expressions
    nodeFrom start .other e.toList

/-- A list or a comprehension in brackets. -/
def bracketed (g : Grammar) : Parse Tree := do
  let start ← get
  let g := g.inside
  g.symbol "["
  let items ← attempt (g.listed g.spreadable)
  let more ← attempt g.clauses
  g.symbol "]"
  nodeFrom start .other (items.toList ++ more.getD [])

/-- A dictionary, a set or a comprehension in braces. -/
def braced (g : Grammar) : Parse Tree := do
  let start ← get
  let g := g.inside
  g.symbol "\x7b"
  let items ← attempt (g.listed (entry g))
  let more ← attempt g.clauses
  g.symbol "\x7d"
  nodeFrom start .other (items.toList ++ more.getD [])
where
  /-- An item with or without a key. -/
  entry (g : Grammar) : Parse Tree := do
    let key ← g.spreadable
    match ← attempt (g.symbol ":" *> g.expression) with
    | some value => return nodeAround .other key value [key, value]
    | none => return key

/-- The part of an inserted expression that says how it is shown, with its own insertions. -/
def shownAs (g : Grammar) : Nat → Parse (List Tree)
  | 0 => failure
  | fuel + 1 => do
    match ← ahead with
    | '{' :: _ =>
      skip 1
      let e ← g.inside.expressions
      discard <| takeWhile (· != '\x7d')
      skip 1
      return e :: (← shownAs g fuel)
    | '}' :: _ => return []
    | _ :: _ =>
      skip 1
      shownAs g fuel
    | [] => failure

/-- An expression inserted into a text. -/
def insertion (g : Grammar) : Parse Tree := do
  let start ← get
  let g := g.inside
  skip 1
  let e ← g.expressions
  discard <| attempt (g.symbol "=")
  wideGap
  if (← ahead).head? == some '!' then
    skip 1
    discard <| anyWord true .other
    wideGap
  let more ←
    if (← ahead).head? == some ':' then
      skip 1
      g.shownAs (← ahead).length
    else pure []
  wideGap
  require ((← ahead).head? == some '\x7d')
  skip 1
  nodeFrom start .other (e :: more)

/-- The inserted expressions of a text up to its closing quote. -/
def quotedParts (g : Grammar) (inserts : Bool) (quote : List Char) : Nat → Parse (List Tree)
  | 0 => failure
  | fuel + 1 => do
    let here ← ahead
    if quote.isPrefixOf here then
      skip quote.length
      return []
    else
      match here with
      | [] => failure
      | '\\' :: _ :: _ =>
        skip 2
        quotedParts g inserts quote fuel
      | '{' :: '{' :: _ =>
        skip (if inserts then 2 else 1)
        quotedParts g inserts quote fuel
      | '{' :: _ =>
        if inserts then
          let e ← g.insertion
          return e :: (← quotedParts g inserts quote fuel)
        else
          skip 1
          quotedParts g inserts quote fuel
      | c :: _ =>
        require (c != '\n' || 1 < quote.length)
        skip 1
        quotedParts g inserts quote fuel

/-- A text in quotes. -/
def quoted (g : Grammar) : Parse Tree := do
  let start ← get
  let (letters, quote) ← quoteAhead
  skip (letters.length + quote.length)
  let inserts := letters.any fun c => c == 'f' || c == 'F' || c == 't' || c == 'T'
  let parts ← g.quotedParts inserts quote ((← ahead).length + 1)
  nodeFrom start .other parts

/-- Texts in quotes, one after the other. -/
def quotedTexts (g : Grammar) : Parse Tree := do
  let first ← g.quoted
  let others ← many (gap g.enclosed *> g.quoted)
  match others.getLast? with
  | none => return first
  | some last => return nodeAround .other first last (first :: others)

/-- A parameter with its type and default. -/
def parameter (g : Grammar) (typed : Bool) : Parse Tree := do
  gap g.enclosed
  let start ← get
  match ← attempt (g.symbol "/") with
  | some _ => nodeFrom start .other []
  | none =>
    let star ← attempt (firstOf [g.symbol "**", g.symbol "*"])
    let name ← attempt (firstOf [identifier g.enclosed, g.parenthesized])
    require (star.isSome || name.isSome)
    let type ← if typed then attempt (g.symbol ":" *> g.spreadable) else pure none
    let value ← attempt (g.symbol "=" *> g.expression)
    nodeFrom start .other (name.toList ++ type.toList ++ value.toList)

/-- Parameters with commas between them. -/
def parameters (g : Grammar) (typed : Bool) : Parse (List Tree) := do
  let items ← separated (g.symbol ",") (g.parameter typed)
  discard <| attempt (g.symbol ",")
  return items

/-- A function without a name. -/
def lambda (g : Grammar) : Parse Tree := do
  gap g.enclosed
  let start ← get
  g.keyword "lambda"
  let items ← g.parameters false
  g.symbol ":"
  let body ← g.expression
  nodeFrom start .other (items ++ [body])

/-- An operand without what may follow it. -/
def primary (g : Grammar) : Parse Tree := do
  wideGap
  match ← attempt g.quotedTexts with
  | some t => return t
  | none =>
    let word := wordOf (← ahead)
    if !word.isEmpty then
      if ["True", "False", "None"].contains word then anyWord g.enclosed .other
      else identifier g.enclosed
    else
      match (← ahead).head? with
      | some '(' => g.parenthesized
      | some '[' => g.bracketed
      | some '{' => g.braced
      | _ => firstOf [dots, number]
where
  /-- Three points. -/
  dots : Parse Tree := do
    let start ← get
    exactly "..."
    nodeFrom start .other []

/-- An argument of a call. -/
def argument (g : Grammar) : Parse Tree :=
  firstOf [given, g.spreadable]
where
  /-- An argument given by name. -/
  given : Parse Tree := do
    let name ← anyWord g.enclosed .identifier
    g.symbol "="
    let value ← g.expression
    return nodeAround .namedArgument name value [name, value]

/-- The call of an operand. -/
def callOf (g : Grammar) (e : Tree) : Parse Tree := do
  gap g.enclosed
  let start ← get
  let g := g.inside
  g.symbol "("
  let items ← separated (g.symbol ",") (generated g)
  discard <| attempt (g.symbol ",")
  g.symbol ")"
  let arguments ← nodeFrom start .arguments items.flatten
  nodeSince e .call [e.as .function, arguments.as .arguments]
where
  /-- An argument with the clauses behind it. -/
  generated (g : Grammar) : Parse (List Tree) := do
    let item ← g.argument
    match ← attempt g.clauses with
    | some more => return item :: more
    | none => return [item]

/-- The attribute of an operand. -/
def attributeOf (g : Grammar) (e : Tree) : Parse Tree := do
  g.symbol "."
  let name ← anyWord g.enclosed .identifier
  nodeSince e .member [e.as .object, name.as .property]

/-- A part of an operand in brackets. -/
def itemOf (g : Grammar) (e : Tree) : Parse Tree := do
  gap g.enclosed
  let g := g.inside
  g.symbol "["
  let items ← separated (g.symbol ",") (slice g)
  discard <| attempt (g.symbol ",")
  g.symbol "]"
  nodeSince e .element (e.as .object :: items.flatten)
where
  /-- An expression, or bounds with colons between them. -/
  slice (g : Grammar) : Parse (List Tree) := do
    let first ← attempt g.spreadable
    let others ← many (g.symbol ":" *> attempt g.expression)
    require (first.isSome || !others.isEmpty)
    return first.toList ++ others.filterMap id

/-- An operand and what follows it. -/
def extended (g : Grammar) : Nat → Tree → Parse Tree
  | 0, e => pure e
  | fuel + 1, e => do
    match ← attempt (firstOf [g.attributeOf e, g.callOf e, g.itemOf e]) with
    | some longer => extended g fuel longer
    | none => pure e

/-- An operand with its attributes, calls and parts. -/
def chain (g : Grammar) : Parse Tree := do
  let e ← g.primary
  g.extended (← ahead).length e

/-- An operand with an operator in front of it. -/
def unary (g : Grammar) : Parse Tree := do
  wideGap
  let start ← get
  let operator := operatorOf start.rest
  if ["+", "-", "~"].contains operator then
    skip 1
    let e ← g.operand signed
    nodeFrom start .other [e]
  else if wordOf start.rest == "await" then firstOf [awaiting start, g.chain]
  else g.chain
where
  /-- An expression that is waited for. -/
  awaiting (start : Place) : Parse Tree := do
    g.keyword "await"
    let e ← g.operand signed
    nodeFrom start .awaiting [e]

/-- The comparison behind the gap, with the characters it takes. -/
def comparator (g : Grammar) : Parse Tree := do
  gap g.enclosed
  let start ← get
  match wordOf start.rest with
  | "in" => g.keyword "in"
  | "is" =>
    g.keyword "is"
    discard <| attempt (g.keyword "not")
  | "not" =>
    g.keyword "not"
    g.keyword "in"
  | _ =>
    let operator := operatorOf start.rest
    require (["<", "<=", "==", "!=", ">=", ">", "<>"].contains operator)
    skip operator.length
  return (← nodeFrom start .operator []).as .operator

/-- An operand and the comparisons behind it, or nothing when there are none. -/
def compared (g : Grammar) (e : Tree) : Parse Tree := do
  let others ← many do
    let operator ← g.comparator
    let right ← g.operand (comparing + 1)
    return [operator, right]
  match others.flatten.getLast? with
  | none => failure
  | some last => return nodeAround .comparison e last (e :: others.flatten)

/-- An operand and a word between conditions behind it. -/
def conjoined (g : Grammar) (level : Nat) (e : Tree) : Parse Tree := do
  let word ← wordAhead g.enclosed
  let found := if word == "and" then 11 else 10
  require ((word == "and" || word == "or") && level ≤ found)
  g.keyword word
  let right ← g.operand (found + 1)
  return nodeAround .other e right [e, right]

/-- An operand and a binary operator behind it. -/
def calculated (g : Grammar) (level : Nat) (e : Tree) : Parse Tree := do
  gap g.enclosed
  let start ← get
  let operator := operatorOf start.rest
  match level? operator with
  | some found =>
    require (level ≤ found)
    skip operator.length
    let node ← nodeFrom start .operator []
    let right ← g.operand (if operator == "**" then found else found + 1)
    return nodeAround .binary e right [e, node.as .operator, right]
  | none => failure

/-- An operand and the operators of at least a level behind it. -/
def joined (g : Grammar) (level : Nat) : Nat → Tree → Parse Tree
  | 0, e => pure e
  | fuel + 1, e => do
    let comparisons := if level ≤ comparing then [g.compared e] else []
    match ← attempt (firstOf (g.calculated level e :: g.conjoined level e :: comparisons)) with
    | some longer => joined g level fuel longer
    | none => pure e

/-- An operand of the operators of at least a level. -/
def anyOperand (g : Grammar) (level : Nat) : Parse Tree := do
  let negation ← wouldRead (wideGap *> g.keyword "not")
  let e ←
    if negation && level ≤ 12 then
      wideGap
      let start ← get
      g.keyword "not"
      let e ← g.operand 12
      nodeFrom start .other [e]
    else g.unary
  g.joined level ((← ahead).length + 1) e

/-- A name that is given a value inside an expression. -/
def named (g : Grammar) : Parse Tree := do
  let name ← identifier g.enclosed
  g.symbol ":="
  let value ← g.expression
  return nodeAround .other name value [name, value]

/-- A choice between two expressions, or only the first. -/
def conditional (g : Grammar) : Parse Tree := do
  let yes ← g.operand 10
  let rest ← attempt do
    g.keyword "if"
    let condition ← g.operand 10
    g.keyword "else"
    let no ← g.expression
    return (condition, no)
  match rest with
  | none => return yes
  | some (condition, no) => return nodeAround .other yes no [yes, condition, no]

/-- One expression. -/
def anyExpression (g : Grammar) : Parse Tree :=
  firstOf [g.lambda, g.named, g.conditional]

end Grammar

end Adjudicator.Outline.Python
