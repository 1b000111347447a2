import Adjudicator.Json.Basic
import Adjudicator.Number.Reading

/-!
# Reading JSON

A text is one value with blanks around its parts. Values nest at most 128 deep, a repeated field
keeps its last value, and a number without point and exponent that fits 64 bits is whole.
-/

namespace Adjudicator.Json

open Text

/-- The blanks between the parts of a document. -/
def isGap (c : Char) : Bool :=
  c == ' ' || c == '\n' || c == '\t' || c == '\r'

/-- Four hexadecimal digits and what follows them. -/
def readUnit? (s : List Char) : Option (Nat × List Char) :=
  if s.length < 4 then none
  else (Number.digitsValue? 16 (s.take 4)).map fun n => (n, s.drop 4)

/-- The character of an escape with a letter. -/
def escaped? : Char → Option Char
  | '"' => some '"'
  | '\\' => some '\\'
  | '/' => some '/'
  | 'b' => some '\x08'
  | 'f' => some '\x0c'
  | 'n' => some '\n'
  | 'r' => some '\r'
  | 't' => some '\t'
  | _ => none

/-- A character written by its unit, or by two units when it lies beyond the first plane. -/
def readEscapedUnit? (s : List Char) : Option (Char × List Char) :=
  match readUnit? s with
  | none => none
  | some (high, rest) =>
    if 0xD800 ≤ high ∧ high < 0xDC00 then
      match rest with
      | '\\' :: 'u' :: tail =>
        match readUnit? tail with
        | some (low, rest) =>
          if 0xDC00 ≤ low ∧ low < 0xE000 then
            some (Char.ofNat (0x10000 + (high - 0xD800) * 0x400 + (low - 0xDC00)), rest)
          else none
        | none => none
      | _ => none
    else if 0xDC00 ≤ high ∧ high < 0xE000 then none
    else some (Char.ofNat high, rest)

/-- The rest of a quoted text, whose characters so far are `done`, newest first. -/
def readQuoted? : Nat → List Char → List Char → Option (String × List Char)
  | 0, _, _ => none
  | _ + 1, _, [] => none
  | _ + 1, done, '"' :: rest => some (String.ofList done.reverse, rest)
  | fuel + 1, done, '\\' :: 'u' :: rest =>
    match readEscapedUnit? rest with
    | some (c, rest) => readQuoted? fuel (c :: done) rest
    | none => none
  | fuel + 1, done, '\\' :: c :: rest =>
    match escaped? c with
    | some e => readQuoted? fuel (e :: done) rest
    | none => none
  | fuel + 1, done, c :: rest =>
    if c = '\\' ∨ c.toNat < 32 then none else readQuoted? fuel (c :: done) rest

/-- The characters that a number may be written with. -/
def isNumberChar (c : Char) : Bool :=
  isAsciiDigit c || c == '-' || c == '+' || c == '.' || c == 'e' || c == 'E'

/-- Whether digits are non-empty and have no superfluous zero in front. -/
def plainDigits (s : List Char) : Bool :=
  match s with
  | [] => false
  | ['0'] => true
  | '0' :: _ => false
  | _ => s.all isAsciiDigit

/-- A number from exactly its characters. -/
def number? (s : List Char) : Option Json :=
  let (negative, body) :=
    match s with
    | '-' :: rest => (true, rest)
    | _ => (false, s)
  let whole := body.takeWhile isAsciiDigit
  let tail := body.dropWhile isAsciiDigit
  if !plainDigits whole then none
  else if tail.isEmpty then
    let n : Int := Number.digitsValue whole
    let n := if negative then -n else n
    if -(Nat.pow 2 63 : Int) ≤ n ∧ n < (Nat.pow 2 64 : Int) ∧ !(negative && n == 0) then
      some (int n)
    else (Number.readFloat? s).map float
  else
    let fractionFine :=
      match tail with
      | '.' :: c :: _ => isAsciiDigit c
      | '.' :: [] => false
      | _ => true
    if fractionFine then (Number.readFloat? s).map float else none

mutual

/-- A value and what follows it. -/
def value? (fuel depth : Nat) (s : List Char) : Option (Json × List Char) :=
  match fuel with
  | 0 => none
  | fuel + 1 =>
    match s.dropWhile isGap with
    | 'n' :: 'u' :: 'l' :: 'l' :: rest => some (null, rest)
    | 't' :: 'r' :: 'u' :: 'e' :: rest => some (bool true, rest)
    | 'f' :: 'a' :: 'l' :: 's' :: 'e' :: rest => some (bool false, rest)
    | '"' :: rest => (readQuoted? (rest.length + 1) [] rest).map fun (t, rest) => (str t, rest)
    | '[' :: rest =>
      match depth, rest.dropWhile isGap with
      | 0, _ => none
      | _ + 1, ']' :: rest => some (arr [], rest)
      | depth + 1, rest => (items? fuel depth [] rest).map fun (items, rest) => (arr items, rest)
    | '\x7b' :: rest =>
      match depth, rest.dropWhile isGap with
      | 0, _ => none
      | _ + 1, '\x7d' :: rest => some (obj [], rest)
      | depth + 1, rest =>
        (fields? fuel depth [] rest).map fun (fields, rest) => (obj fields, rest)
    | rest => (number? (rest.takeWhile isNumberChar)).map (·, rest.dropWhile isNumberChar)

/-- The items up to a closing bracket; those read so far are `done`, newest first. -/
def items? (fuel depth : Nat) (done : List Json) (s : List Char) :
    Option (List Json × List Char) :=
  match fuel with
  | 0 => none
  | fuel + 1 =>
    match value? fuel depth s with
    | none => none
    | some (item, rest) =>
      match rest.dropWhile isGap with
      | ',' :: rest => items? fuel depth (item :: done) rest
      | ']' :: rest => some ((item :: done).reverse, rest)
      | _ => none

/-- The fields up to a closing brace; those read so far are `done`, newest first. -/
def fields? (fuel depth : Nat) (done : List (String × Json)) (s : List Char) :
    Option (List (String × Json) × List Char) :=
  match fuel with
  | 0 => none
  | fuel + 1 =>
    match s.dropWhile isGap with
    | '"' :: rest =>
      match readQuoted? (rest.length + 1) [] rest with
      | none => none
      | some (name, rest) =>
        match rest.dropWhile isGap with
        | ':' :: rest =>
          match value? fuel depth rest with
          | none => none
          | some (value, rest) =>
            let done := (name, value) :: done.filter fun old => old.1 != name
            match rest.dropWhile isGap with
            | ',' :: rest => fields? fuel depth done rest
            | '\x7d' :: rest => some (done.reverse, rest)
            | _ => none
        | _ => none
    | _ => none

end

/-- The document of a text. -/
def parse? (s : String) : Option Json :=
  let chars := s.toList
  match value? (2 * chars.length + 2) 128 chars with
  | some (value, rest) => if rest.all isGap then some value else none
  | none => none

end Adjudicator.Json
