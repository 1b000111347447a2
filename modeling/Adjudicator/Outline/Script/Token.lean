import Adjudicator.Outline.Parse

/-!
# Tokens of scripts

The tokens of TypeScript and JavaScript: blanks and comments, words, operators, literals, and the
ends of statements. A statement ends at a semicolon, or where one may be left out: before a
closing brace, at the end of the text, and at a line end unless the next line can go on with the
statement.
-/

namespace Adjudicator.Outline.Script

open Text Parse

/-- A blank between tokens. -/
def isSpace (c : Char) : Bool :=
  isBlank c || c.toNat == 0xFEFF || c.toNat == 0x200B || c.toNat == 0x2060

/-- A line end. -/
def isLineEnd (c : Char) : Bool :=
  c == '\n' || c.toNat == 0x2028 || c.toNat == 0x2029

/-- The characters of no name. -/
def punctuation : List Char :=
  Code.backtick :: ":;\"'@#.,|^&<=>+-*/\\%?!~()[]\x7b\x7d".toList

/-- A character of a name that is no digit. -/
def isNameStart (c : Char) : Bool :=
  0x1F < c.toNat && !isSpace c && !punctuation.contains c && !isAsciiDigit c

/-- A character of a name. -/
def isNameChar (c : Char) : Bool :=
  isNameStart c || isAsciiDigit c

/-- The length of a block comment behind its opening, with its closing. -/
def blockLength : List Char → Option Nat
  | '*' :: '/' :: _ => some 2
  | _ :: rest => (blockLength rest).map (· + 1)
  | [] => none

/-- A comment. -/
def comment : Parse Tree := do
  let start ← get
  match start.rest with
  | '/' :: '/' :: _ => discard <| takeWhile fun c => !isLineEnd c
  | '/' :: '*' :: rest =>
    match blockLength rest with
    | some n => skip (n + 2)
    | none => failure
  | _ => failure
  nodeFrom start .comment []

/-- Blanks, or a comment. -/
def gapPart : Parse (Option Tree) := do
  match ← ahead with
  | c :: _ =>
    if isSpace c then
      discard <| takeWhile isSpace
      return none
    else return some (← comment)
  | [] => failure

/-- What stands between two tokens: its comments. -/
def gap : Parse (List Tree) := do
  return (← many gapPart).filterMap id

/-- Whether a line ends before the next token. -/
def lineEndAhead : Parse Bool :=
  fun s =>
    let t := ((gap s).map (·.2)).getD s
    some ((s.rest.take (t.offset - s.offset)).any isLineEnd, s)

/-- The operators of more than one character, longest first. -/
def longOperators : List String :=
  [">>>=", "...", "===", "!==", "**=", "<<=", ">>=", ">>>", "&&=", "||=", "??=", "=>", "==", "!=",
    "<=", ">=", "&&", "||", "??", "?.", "++", "--", "+=", "-=", "*=", "/=", "%=", "&=", "|=",
    "^=", "<<", ">>", "**"]

/-- The operator or bracket that begins a text. -/
def operatorOf (s : List Char) : String :=
  match longOperators.find? fun o => o.toList.isPrefixOf s with
  | some "?." =>
    match s with
    | _ :: _ :: c :: _ => if isAsciiDigit c then "?" else "?."
    | _ => "?."
  | some o => o
  | none => String.ofList (s.take 1)

/-- The operator behind the gap; nothing is read. -/
def operatorAhead : Parse String :=
  peek do
    discard gap
    return operatorOf (← ahead)

/-- Reads an operator or bracket. -/
def symbol (s : String) : Parse Unit := do
  discard gap
  if operatorOf (← ahead) == s then skip s.length else failure

/-- Reads one character behind the gap. -/
def mark (c : Char) : Parse Unit := do
  discard gap
  if (← ahead).head? == some c then skip 1 else failure

/-- Whether an operator comes next. -/
def seesSymbol (s : String) : Parse Bool :=
  wouldRead (symbol s)

/-- The word that begins a text, empty when there is none. -/
def wordOf (s : List Char) : String :=
  if s.head?.any isNameStart then String.ofList (s.takeWhile isNameChar) else ""

/-- The word behind the gap, empty when there is none; nothing is read. -/
def wordAhead : Parse String :=
  peek do
    discard gap
    return wordOf (← ahead)

/-- Reads a given word. -/
def keyword (s : String) : Parse Unit := do
  discard gap
  if wordOf (← ahead) == s then skip s.length else failure

/-- Whether a given word comes next. -/
def seesWord (s : String) : Parse Bool :=
  wouldRead (keyword s)

/-- The words that are no names. -/
def reserved : List String :=
  ["break", "case", "catch", "class", "const", "continue", "debugger", "default", "delete", "do",
    "else", "export", "extends", "finally", "for", "function", "if", "import", "in", "instanceof",
    "new", "return", "super", "switch", "this", "throw", "try", "typeof", "var", "void", "while",
    "with", "true", "false", "null", "enum"]

/-- Any word as a node. -/
def anyWord (form : Form) : Parse Tree := do
  discard gap
  let start ← get
  let word := wordOf start.rest
  require (!word.isEmpty)
  skip word.length
  nodeFrom start form []

/-- A name that stands for a variable. -/
def identifier : Parse Tree := do
  let word ← wordAhead
  require (!reserved.contains word)
  anyWord (if word == "undefined" then .other else .identifier)

/-- The length of a quoted text behind its opening quote, with its closing quote. -/
def quotedLength (quote : Char) : List Char → Option Nat
  | [] => none
  | '\\' :: _ :: rest => (quotedLength quote rest).map (· + 2)
  | c :: rest =>
    if c = quote then some 1
    else if c = '\n' then none
    else (quotedLength quote rest).map (· + 1)

/-- A quoted text. -/
def quotedText : Parse Tree := do
  discard gap
  let start ← get
  match start.rest with
  | q :: rest =>
    require (q == '"' || q == '\'')
    match quotedLength q rest with
    | some n => skip (n + 1)
    | none => failure
  | [] => failure
  nodeFrom start .other []

/-- The length of a pattern between slashes behind its opening slash, with its closing slash. -/
def slashedLength (inClass : Bool) : List Char → Option Nat
  | [] => none
  | '\\' :: _ :: rest => (slashedLength inClass rest).map (· + 2)
  | c :: rest =>
    if c = '\n' then none
    else if c = '/' ∧ !inClass then some 1
    else
      (slashedLength (if c = '[' then true else if c = ']' then false else inClass) rest).map
        (· + 1)

/-- A pattern between slashes with its flags. -/
def slashedPattern : Parse Tree := do
  discard gap
  let start ← get
  match start.rest with
  | '/' :: rest =>
    match slashedLength false rest with
    | some n =>
      require (1 < n)
      skip (n + 1)
    | none => failure
  | _ => failure
  discard <| takeWhile isAsciiLower
  nodeFrom start .other []

/-- The characters of a number, where `s` begins with a digit or with a point and a digit. -/
def numberLength (s : List Char) : Nat :=
  let isDigitChar (c : Char) : Bool := isAsciiDigit c || c == '_'
  let whole := s.takeWhile isDigitChar
  match s with
  | '0' :: c :: _ =>
    if "xXoObB".toList.contains c then
      (s.takeWhile fun c => isAsciiLetter c || isDigitChar c).length
    else decimalLength isDigitChar whole s
  | _ => decimalLength isDigitChar whole s
where
  /-- The characters of a decimal number. -/
  decimalLength (isDigitChar : Char → Bool) (whole s : List Char) : Nat :=
    let afterWhole := s.drop whole.length
    let fraction :=
      match afterWhole with
      | '.' :: rest => (rest.takeWhile isDigitChar).length + 1
      | _ => 0
    let afterFraction := afterWhole.drop fraction
    let exponent :=
      match afterFraction with
      | e :: rest =>
        if e = 'e' ∨ e = 'E' then
          let sign := if rest.head?.any fun c => c == '+' || c == '-' then 1 else 0
          let digits := ((rest.drop sign).takeWhile isDigitChar).length
          if digits = 0 then 0 else 1 + sign + digits
        else if e = 'n' ∧ fraction = 0 then 1
        else 0
      | [] => 0
    whole.length + fraction + exponent

/-- A number. -/
def number : Parse Tree := do
  discard gap
  let start ← get
  match start.rest with
  | '.' :: c :: _ => require (isAsciiDigit c)
  | c :: _ => require (isAsciiDigit c)
  | [] => failure
  skip (numberLength start.rest)
  nodeFrom start .other []

/-- Whether a text that begins a new line begins a new statement. -/
def beginsStatement : List Char → Bool
  | [] => true
  | '.' :: rest => rest.head?.any isAsciiDigit
  | '+' :: rest => rest.head? == some '+'
  | '-' :: rest => rest.head? == some '-'
  | '!' :: rest => rest.head? != some '='
  | 'i' :: 'n' :: rest =>
    match "stanceof".toList.isPrefixOf? rest with
    | some (c :: _) => isAsciiLetter c
    | some [] => false
    | none => rest.head?.any isAsciiLetter
  | c :: _ => !(Code.backtick :: ",:;*%><=[(?^|&/".toList).contains c

/-- Whether a semicolon may be left out here. Behind an expression a comment without a line end
decides nothing; otherwise what follows the comments begins a new statement. -/
def endsHere (afterExpression : Bool) : Nat → Place → Bool
  | 0, _ => false
  | fuel + 1, s =>
    match s.rest with
    | [] => true
    | '}' :: _ => true
    | '/' :: _ =>
      match comment s with
      | none => false
      | some (_, t) =>
        let line := "//".toList.isPrefixOf s.rest
        let broken := (s.rest.take (t.offset - s.offset)).any isLineEnd
        if !afterExpression && (line || broken) then
          let next := ((gap t).map (·.2)).getD t
          next.rest.head? != some ',' && next.rest.head? != some '='
        else endsHere afterExpression fuel t
    | c :: _ =>
      if isLineEnd c then
        match gap (step s) with
        | some (_, t) => beginsStatement t.rest
        | none => false
      else if isSpace c then endsHere afterExpression fuel (step s)
      else false

/-- The end of a statement. -/
def statementEnd (afterExpression : Bool) : Parse Unit := do
  let here ← get
  if endsHere afterExpression (here.rest.length + 1) here then pure () else symbol ";"

end Adjudicator.Outline.Script
