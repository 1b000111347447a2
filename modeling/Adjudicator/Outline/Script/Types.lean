import Adjudicator.Outline.Script.Symbol

/-!
# Types in scripts

Types are read only to know where they end; nothing of them is kept.
-/

namespace Adjudicator.Outline.Script

open Parse

/-- The place behind the bracket that closes `depth` open brackets. -/
def closingPlace : Nat → Nat → Place → Option Place
  | 0, _, _ => none
  | fuel + 1, depth, s =>
    match s.rest with
    | [] => none
    | c :: rest =>
      if c = '"' ∨ c = '\'' ∨ c = Code.backtick then
        match quotedLength c rest with
        | some n => closingPlace fuel depth (Nat.repeat step (n + 1) s)
        | none => none
      else if "([\x7b".toList.contains c then closingPlace fuel (depth + 1) (step s)
      else if ")]\x7d".toList.contains c then
        if depth ≤ 1 then some (step s) else closingPlace fuel (depth - 1) (step s)
      else
        match comment s with
        | some (_, t) => closingPlace fuel depth t
        | none => closingPlace fuel depth (step s)

/-- Reads from an opening bracket to the one that closes it. -/
def balanced (opening : Char) : Parse Unit := do
  mark opening
  let here ← get
  match closingPlace (here.rest.length + 1) 1 here with
  | some t => set t
  | none => failure

/-- Names with points between them. -/
def path : Parse Unit := do
  discard <| anyWord .other
  discard <| many (mark '.' *> anyWord .other)

namespace Grammar

/-- A type. -/
def type (g : Grammar) : Parse Unit :=
  discard (g.parse .type)

/-- Types between angle brackets. -/
def typeArguments (g : Grammar) : Parse Unit := do
  mark '<'
  discard <| separated (mark ',') g.type
  discard <| attempt (mark ',')
  mark '>'

/-- Declared type parameters. -/
def typeParameters (g : Grammar) : Parse Unit := do
  mark '<'
  discard <| separated (mark ',') do
    discard <| attempt (keyword "const" <* wouldBeName)
    discard <| anyWord .other
    discard <| attempt (keyword "extends" *> g.type)
    discard <| attempt (symbol "=" *> g.type)
  discard <| attempt (mark ',')
  mark '>'
where
  /-- Fails unless a name comes next. -/
  wouldBeName : Parse Unit := do
    require !(← wordAhead).isEmpty

/-- A type behind a colon, where there is one. -/
def annotated (g : Grammar) : Parse Unit := do
  if g.typed then discard <| attempt (symbol ":" *> g.type)

/-- The rest of a function type behind its type parameters. -/
def functionType (g : Grammar) : Parse Unit := do
  balanced '('
  symbol "=>"
  g.type

/-- A type that starts with a word. -/
def wordType (g : Grammar) (word : String) : Parse Unit := do
  match word with
  | "new" =>
    keyword "new"
    discard <| attempt g.typeParameters
    g.functionType
  | "keyof" | "unique" | "readonly" | "infer" | "asserts" | "abstract" =>
    firstOf [keyword word *> g.type, path]
  | "typeof" =>
    keyword "typeof"
    firstOf [imported, path]
    discard <| attempt g.typeArguments
  | "import" =>
    imported
    discard <| attempt g.typeArguments
  | _ =>
    path
    discard <| attempt g.typeArguments
where
  /-- A module and names in it. -/
  imported : Parse Unit := do
    keyword "import"
    balanced '('
    discard <| many (mark '.' *> anyWord .other)

/-- A type without operators. -/
def primaryType (g : Grammar) : Parse Unit := do
  discard gap
  let word := wordOf (← ahead)
  if !word.isEmpty then g.wordType word
  else
    match (← ahead).head? with
    | some '(' => firstOf [g.functionType, balanced '(']
    | some '{' => balanced '{'
    | some '[' => balanced '['
    | some '<' =>
      g.typeParameters
      g.functionType
    | some '-' =>
      mark '-'
      discard number
    | some c =>
      if c = Code.backtick then
        match quotedLength c ((← ahead).drop 1) with
        | some n => skip (n + 1)
        | none => failure
      else discard <| firstOf [quotedText, number]
    | none => failure

/-- A type with the brackets of arrays and of members. -/
def arrayType (g : Grammar) : Parse Unit := do
  g.primaryType
  discard <| many (balanced '[')

/-- A type with its operators. -/
def operatorType (g : Grammar) : Parse Unit := do
  discard <| attempt joint
  g.arrayType
  discard <| many (joint *> g.arrayType)
  if !(← lineEndAhead) then discard <| attempt (keyword "is" *> g.type)
  discard <| attempt do
    keyword "extends"
    g.type
    symbol "?"
    g.type
    symbol ":"
    g.type
where
  /-- An operator between types. -/
  joint : Parse Unit := firstOf [symbol "|", symbol "&"]

end Grammar

end Adjudicator.Outline.Script
