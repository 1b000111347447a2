import Adjudicator.Outline.Parse

/-!
# Tokens of Python

Blanks, comments, words, operators and numbers of Python. Inside brackets a line end is a blank;
elsewhere it ends a statement, unless a backslash stands before it.
-/

namespace Adjudicator.Outline.Python

open Text Parse

/-- A blank inside a line. -/
def isSpace (c : Char) : Bool :=
  (isBlank c && c != '\n') || c.toNat == 0xFEFF || c.toNat == 0x200B || c.toNat == 0x2060

/-- The number of characters of a backslash with the line end behind it. -/
def continuationLength : List Char → Nat
  | '\\' :: '\n' :: _ => 2
  | '\\' :: '\r' :: '\n' :: _ => 3
  | _ => 0

/-- Blanks of a line, or a line end that is taken back. -/
def linePart : Parse Unit := do
  let here ← ahead
  if here.head?.any isSpace then discard <| takeWhile isSpace
  else
    let n := continuationLength here
    require (0 < n)
    skip n

/-- A comment. -/
def comment : Parse Unit := do
  require ((← ahead).head? == some '#')
  discard <| takeWhile (· != '\n')

/-- What stands between two tokens of a line. -/
def lineGap : Parse Unit :=
  discard <| many linePart

/-- What stands between two tokens inside brackets. -/
def wideGap : Parse Unit :=
  discard <| many (firstOf [linePart, comment, lineEnd])
where
  /-- The end of a line. -/
  lineEnd : Parse Unit := do
    require ((← ahead).head? == some '\n')
    skip 1

/-- Whether a simple statement ends here. -/
def endsHere : Parse Bool :=
  wouldRead do
    lineGap
    let here ← ahead
    require (here.isEmpty || [';', '\n', '#'].any fun c => here.head? == some c)

/-- What stands between two tokens, inside brackets or not. -/
def gap (enclosed : Bool) : Parse Unit :=
  if enclosed then wideGap else lineGap

/-- The operators of more than one character, longest first. -/
def longOperators : List String :=
  ["**=", "//=", ">>=", "<<=", "...", "**", "//", ">>", "<<", "==", "!=", "<=", ">=", "<>", "->",
    ":=", "+=", "-=", "*=", "/=", "%=", "@=", "&=", "|=", "^="]

/-- The operator or bracket that begins a text. -/
def operatorOf (s : List Char) : String :=
  match longOperators.find? fun o => o.toList.isPrefixOf s with
  | some o => o
  | none => String.ofList (s.take 1)

/-- A character of a name that is no digit. -/
def isNameStart (c : Char) : Bool :=
  isWord c && !isDigit c

/-- The word that begins a text, empty when there is none. -/
def wordOf (s : List Char) : String :=
  if s.head?.any isNameStart then String.ofList (s.takeWhile isWord) else ""

/-- The operator behind the gap; nothing is read. -/
def operatorAhead (enclosed : Bool) : Parse String :=
  peek do
    gap enclosed
    return operatorOf (← ahead)

/-- The word behind the gap, empty when there is none; nothing is read. -/
def wordAhead (enclosed : Bool) : Parse String :=
  peek do
    gap enclosed
    return wordOf (← ahead)

/-- Reads an operator or bracket. -/
def symbol (enclosed : Bool) (s : String) : Parse Unit := do
  gap enclosed
  if operatorOf (← ahead) == s then skip s.length else failure

/-- Reads a given word. -/
def keyword (enclosed : Bool) (s : String) : Parse Unit := do
  gap enclosed
  if wordOf (← ahead) == s then skip s.length else failure

/-- The words that are no names. -/
def reserved : List String :=
  ["False", "None", "True", "and", "as", "assert", "break", "class", "continue", "def", "del",
    "elif", "else", "except", "finally", "for", "from", "global", "if", "import", "in", "is",
    "lambda", "nonlocal", "not", "or", "pass", "raise", "return", "try", "while", "with", "yield"]

/-- Any word as a node. -/
def anyWord (enclosed : Bool) (form : Form) : Parse Tree := do
  gap enclosed
  let start ← get
  let word := wordOf start.rest
  require (!word.isEmpty)
  skip word.length
  nodeFrom start form []

/-- A name. -/
def identifier (enclosed : Bool) : Parse Tree := do
  require !(reserved.contains (← wordAhead enclosed))
  anyWord enclosed .identifier

/-- The characters of a number, where `s` begins with a digit or with a point and a digit. -/
def numberLength (s : List Char) : Nat :=
  let isDigitChar (c : Char) : Bool := isAsciiDigit c || c == '_'
  match s with
  | '0' :: c :: _ =>
    if "xXoObB".toList.contains c then
      (s.takeWhile fun c => isAsciiLetter c || isDigitChar c).length
    else decimalLength isDigitChar s
  | _ => decimalLength isDigitChar s
where
  /-- The characters of a decimal number with the letter behind it. -/
  decimalLength (isDigitChar : Char → Bool) (s : List Char) : Nat :=
    let whole := (s.takeWhile isDigitChar).length
    let fraction :=
      match s.drop whole with
      | '.' :: rest => (rest.takeWhile isDigitChar).length + 1
      | _ => 0
    let afterFraction := s.drop (whole + fraction)
    let exponent :=
      match afterFraction with
      | e :: rest =>
        if e = 'e' ∨ e = 'E' then
          let sign := if rest.head?.any fun c => c == '+' || c == '-' then 1 else 0
          let digits := ((rest.drop sign).takeWhile isDigitChar).length
          if digits = 0 then 0 else 1 + sign + digits
        else 0
      | [] => 0
    let letter :=
      if (afterFraction.drop exponent).head?.any "jJlL".toList.contains then 1 else 0
    whole + fraction + exponent + letter

/-- A number. -/
def number : Parse Tree := do
  let start ← get
  match start.rest with
  | '.' :: c :: _ => require (isAsciiDigit c)
  | c :: _ => require (isAsciiDigit c)
  | [] => failure
  skip (numberLength start.rest)
  nodeFrom start .other []

/-- The letters in front of a quote, and the quote. -/
def quoteAhead : Parse (List Char × List Char) := do
  let here ← ahead
  let letters := here.takeWhile "rRbBuUfFtT".toList.contains
  require (letters.length ≤ 2)
  match here.drop letters.length with
  | q :: rest =>
    require (q == '"' || q == '\'')
    return (letters, if rest.take 2 == [q, q] then [q, q, q] else [q])
  | [] => failure

end Adjudicator.Outline.Python
