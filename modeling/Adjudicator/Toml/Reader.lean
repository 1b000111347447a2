import Adjudicator.Toml.Scalar

/-!
# Reading TOML

A document has one entry a line: a key with its value, or the header of a table. Comments begin
with `#`. Texts have four forms of quotes. A table in braces may extend over several lines.
-/

namespace Adjudicator.Toml

open Text Number

/-- A blank within a line. -/
def isGap (c : Char) : Bool :=
  c == ' ' || c == '\t'

/-- A control character, which may stand nowhere; a tab is none. -/
def isControl (c : Char) : Bool :=
  (c.toNat < 0x20 && c != '\t') || c.toNat == 0x7F

/-- Drops a line end. -/
def dropLineEnd? : List Char → Option (List Char)
  | '\n' :: rest => some rest
  | '\r' :: '\n' :: rest => some rest
  | _ => none

/-- Drops a comment, when there is one. -/
def dropComment? (s : List Char) : Option (List Char) :=
  match s with
  | '#' :: rest =>
    let comment := rest.takeWhile (· != '\n')
    let comment := if comment.getLast? == some '\r' then comment.dropLast else comment
    if comment.any isControl then none else some (rest.drop comment.length)
  | _ => some s

/-- Drops blanks, comments and line ends. -/
def dropLines? : Nat → List Char → Option (List Char)
  | 0, _ => none
  | fuel + 1, s =>
    match dropComment? (s.dropWhile isGap) with
    | none => none
    | some s =>
      match dropLineEnd? s with
      | some rest => dropLines? fuel rest
      | none => some s

/-- A character by its code point, written with so many digits. -/
def codePoint? (digits : Nat) (s : List Char) : Option (Char × List Char) := do
  guard (digits ≤ s.length)
  let n ← digitsValue? 16 (s.take digits)
  guard (n < 0xD800 ∨ (0xE000 ≤ n ∧ n < 0x110000))
  some (Char.ofNat n, s.drop digits)

/-- The character of an escape, behind its backslash. -/
def escaped? : List Char → Option (Char × List Char)
  | '"' :: rest => some ('"', rest)
  | '\\' :: rest => some ('\\', rest)
  | 'b' :: rest => some ('\x08', rest)
  | 'e' :: rest => some ('\x1b', rest)
  | 'f' :: rest => some ('\x0c', rest)
  | 'n' :: rest => some ('\n', rest)
  | 'r' :: rest => some ('\r', rest)
  | 't' :: rest => some ('\t', rest)
  | 'x' :: rest => codePoint? 2 rest
  | 'u' :: rest => codePoint? 4 rest
  | 'U' :: rest => codePoint? 8 rest
  | _ => none

/-- A text in double quotes behind its opening quote, whose characters so far are `done`, newest
first. -/
def quoted? : Nat → List Char → List Char → Option (String × List Char)
  | 0, _, _ => none
  | fuel + 1, done, s =>
    match s with
    | [] => none
    | '"' :: rest => some (String.ofList done.reverse, rest)
    | '\\' :: rest =>
      match escaped? rest with
      | some (c, rest) => quoted? fuel (c :: done) rest
      | none => none
    | c :: rest => if isControl c then none else quoted? fuel (c :: done) rest

/-- A text in single quotes behind its opening quote. -/
def literal? (s : List Char) : Option (String × List Char) :=
  let text := s.takeWhile fun c => c != '\'' && !isControl c
  match s.drop text.length with
  | '\'' :: rest => some (String.ofList text, rest)
  | _ => none

/-- The end of a text in triple quotes, where up to two more quotes belong to the text. -/
def closing? (quote : Char) (s : List Char) : Option (List Char × List Char) :=
  let quotes := s.takeWhile (· == quote)
  if quotes.length < 3 then none
  else
    let extra := min 2 (quotes.length - 3)
    some (quotes.take extra, s.drop (extra + 3))

/-- Drops the blanks and line ends behind a backslash at the end of a line. -/
def dropFold? (s : List Char) : Option (List Char) :=
  (dropLineEnd? (s.dropWhile isGap)).map fun rest =>
    rest.dropWhile fun c => isGap c || c == '\n' || c == '\r'

/-- A text in triple quotes behind its opening quotes, whose characters so far are `done`, newest
first. -/
def block? (quote : Char) : Nat → List Char → List Char → Option (String × List Char)
  | 0, _, _ => none
  | fuel + 1, done, s =>
    match closing? quote s with
    | some (extra, rest) => some (String.ofList (done.reverse ++ extra), rest)
    | none =>
      match dropLineEnd? s with
      | some rest => block? quote fuel ('\n' :: done) rest
      | none =>
        match s with
        | [] => none
        | c :: rest =>
          if c = '\\' ∧ quote = '"' then
            match dropFold? rest with
            | some rest => block? quote fuel done rest
            | none =>
              match escaped? rest with
              | some (c, rest) => block? quote fuel (c :: done) rest
              | none => none
          else if isControl c then none
          else block? quote fuel (c :: done) rest

/-- A text in triple quotes; a line end just behind the opening quotes does not count. -/
def blockText? (quote : Char) (s : List Char) : Option (String × List Char) :=
  block? quote (s.length + 1) [] ((dropLineEnd? s).getD s)

/-- A character of a key without quotes. -/
def isBare (c : Char) : Bool :=
  isAsciiLetter c || isAsciiDigit c || c == '_' || c == '-'

/-- One name of a key. -/
def name? (s : List Char) : Option (String × List Char) :=
  match s with
  | '"' :: rest => quoted? (s.length + 1) [] rest
  | '\'' :: rest => literal? rest
  | _ =>
    let name := s.takeWhile isBare
    if name.isEmpty then none else some (String.ofList name, s.drop name.length)

/-- The names of a key, parted by points. -/
def key? : Nat → List Char → Option (List String × List Char)
  | 0, _ => none
  | fuel + 1, s =>
    match name? (s.dropWhile isGap) with
    | none => none
    | some (name, rest) =>
      match rest.dropWhile isGap with
      | '.' :: rest => (key? fuel rest).map fun (names, rest) => (name :: names, rest)
      | rest => some ([name], rest)

/-- A character that cannot be part of a value without quotes. -/
def endsScalar (c : Char) : Bool :=
  isGap c || c == '\n' || c == '\r' || c == ',' || c == ']' || c == '}' || c == '#' || c == '='

/-- A value without quotes. A date and a time may be parted by a blank. -/
def bareValue? (s : List Char) : Option (Toml × List Char) :=
  let first := s.takeWhile fun c => !endsScalar c
  let rest := s.drop first.length
  let second :=
    match rest with
    | ' ' :: c :: _ => if dropDate? first == some [] && isAsciiDigit c then
        ' ' :: (rest.drop 1).takeWhile fun c => !endsScalar c else []
    | _ => []
  (scalar? (first ++ second)).map (·, rest.drop second.length)

mutual

/-- A value and what follows it. -/
def value? : Nat → List Char → Option (Toml × List Char)
  | 0, _ => none
  | fuel + 1, s =>
    match s with
    | '"' :: '"' :: '"' :: rest => (blockText? '"' rest).map fun (t, rest) => (.text t, rest)
    | '\'' :: '\'' :: '\'' :: rest => (blockText? '\'' rest).map fun (t, rest) => (.text t, rest)
    | '"' :: rest => (quoted? (s.length + 1) [] rest).map fun (t, rest) => (.text t, rest)
    | '\'' :: rest => (literal? rest).map fun (t, rest) => (.text t, rest)
    | '[' :: rest => items? fuel [] rest
    | '{' :: rest => inlineFields? fuel .header [] rest
    | _ => bareValue? s

/-- The rest of a list, whose values so far are `done`. -/
def items? : Nat → List Toml → List Char → Option (Toml × List Char)
  | 0, _, _ => none
  | fuel + 1, done, s => do
    let s ← dropLines? (s.length + 1) s
    match s with
    | ']' :: rest => some (.list done, rest)
    | _ =>
      let (v, s) ← value? fuel s
      match ← dropLines? (s.length + 1) s with
      | ',' :: rest => items? fuel (done ++ [v]) rest
      | ']' :: rest => some (.list (done ++ [v]), rest)
      | _ => none

/-- The rest of a table in braces with its fields so far. -/
def inlineFields? : Nat → Making → Fields → List Char → Option (Toml × List Char)
  | 0, _, _, _ => none
  | fuel + 1, making, fields, s => do
    let s ← dropLines? (s.length + 1) s
    match s with
    | '}' :: rest => some (.inline fields, rest)
    | _ =>
      let (names, s) ← key? (s.length + 1) s
      let s ← drop? '=' s
      let (v, s) ← value? fuel (s.dropWhile isGap)
      let (making, fields) ← addKey names.dropLast (names.getLast?.getD "") v making fields
      match ← dropLines? (s.length + 1) s with
      | ',' :: rest => inlineFields? fuel making fields rest
      | '}' :: rest => some (.inline fields, rest)
      | _ => none

end

/-- A document that is being read: its fields, and the header under which entries stand. -/
structure Draft where
  /-- The fields of the document. -/
  fields : Fields := []
  /-- The names of the current header. -/
  header : List String := []
deriving Repr, Inhabited

/-- The draft with a change of the table under some names. -/
def Draft.change (d : Draft) (names : List String) (change : Change) : Option Draft :=
  (changeAt false names change .header d.fields).map fun (_, fields) => { d with fields }

/-- The draft with a header. -/
def Draft.enter (d : Draft) (names : List String) (several : Bool) : Option Draft :=
  let last := names.getLast?.getD ""
  (d.change names.dropLast (if several then addToTables last else addTable last)).map
    fun d => { d with header := names }

/-- Reads a header behind its first bracket. -/
def headerEntry? (d : Draft) (s : List Char) : Option (Draft × List Char) :=
  match s with
  | '[' :: s => do
    let (names, s) ← key? (s.length + 1) s
    some (← d.enter names true, ← drop? ']' (← drop? ']' s))
  | _ => do
    let (names, s) ← key? (s.length + 1) s
    some (← d.enter names false, ← drop? ']' s)

/-- Reads a key with its value. -/
def keyEntry? (d : Draft) (s : List Char) : Option (Draft × List Char) := do
  let (names, s) ← key? (s.length + 1) s
  let s := (← drop? '=' s).dropWhile isGap
  let (v, s) ← value? (s.length + 1) s
  some (← d.change d.header (addKey names.dropLast (names.getLast?.getD "") v), s)

/-- Reads entries up to the end of the document. -/
def entries? : Nat → Draft → List Char → Option Fields
  | 0, _, _ => none
  | fuel + 1, d, s => do
    match ← dropLines? (s.length + 1) s with
    | [] => some d.fields
    | c :: rest =>
      let (d, s) ← if c = '[' then headerEntry? d rest else keyEntry? d (c :: rest)
      match ← dropComment? (s.dropWhile isGap) with
      | [] => some d.fields
      | s => entries? fuel d (← dropLineEnd? s)

/-- The table that a document describes. -/
def parse? (s : String) : Option Toml :=
  let text := s.toList
  let text := if text.head? == some (Char.ofNat 0xFEFF) then text.drop 1 else text
  (entries? (text.length + 1) {} text).map (.table .header)

end Adjudicator.Toml
