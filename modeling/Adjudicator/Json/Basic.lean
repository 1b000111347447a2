import Adjudicator.Number.Written

/-!
# JSON documents

A document value keeps the order of its fields. Whole numbers and doubles are told apart: a double
is written with a point or an exponent, and one that is not finite is written as null.
-/

namespace Adjudicator

/-- A JSON value. -/
inductive Json where
  /-- The null value. -/
  | null
  /-- A truth value. -/
  | bool (b : Bool)
  /-- A whole number. -/
  | int (n : Int)
  /-- A double. -/
  | float (x : Float)
  /-- A text. -/
  | str (s : String)
  /-- A list of values. -/
  | arr (items : List Json)
  /-- Named fields in their order. -/
  | obj (fields : List (String × Json))
deriving Repr, Inhabited

namespace Json

/-- Value or null. -/
def option {α : Type} (encode : α → Json) : Option α → Json
  | some a => encode a
  | none => null

/-- A natural number. -/
def nat (n : Nat) : Json :=
  int n

/-- The values of a list. -/
def list {α : Type} (encode : α → Json) (items : List α) : Json :=
  arr (items.map encode)

/-- A hexadecimal digit in lower case. -/
def hexDigit (n : Nat) : Char :=
  if n < 10 then Char.ofNat (48 + n) else Char.ofNat (87 + n)

/-- A character inside a quoted text. -/
def quotedChar (c : Char) : List Char :=
  match c with
  | '"' => ['\\', '"']
  | '\\' => ['\\', '\\']
  | '\n' => ['\\', 'n']
  | '\r' => ['\\', 'r']
  | '\t' => ['\\', 't']
  | '\x08' => ['\\', 'b']
  | '\x0c' => ['\\', 'f']
  | _ =>
    if c.toNat < 32 then ['\\', 'u', '0', '0', hexDigit (c.toNat / 16), hexDigit (c.toNat % 16)]
    else [c]

/-- A text in quotes. -/
def quoted (s : String) : String :=
  "\"" ++ String.ofList (s.toList.flatMap quotedChar) ++ "\""

/-- A double; what is not finite has no form and becomes null. -/
def floatText (x : Float) : String :=
  match Number.document? x with
  | some s => String.ofList s
  | none => "null"

mutual

/-- The document without any blanks. -/
def compact : Json → String
  | null => "null"
  | bool b => if b then "true" else "false"
  | int n => String.ofList (Number.intChars n)
  | float x => floatText x
  | str s => quoted s
  | arr items => "[" ++ ",".intercalate (compactItems items) ++ "]"
  | obj fields => "\x7b" ++ ",".intercalate (compactFields fields) ++ "\x7d"

/-- The items of a list without blanks. -/
def compactItems : List Json → List String
  | [] => []
  | item :: rest => item.compact :: compactItems rest

/-- Fields without blanks. -/
def compactFields : List (String × Json) → List String
  | [] => []
  | (name, value) :: rest => (quoted name ++ ":" ++ value.compact) :: compactFields rest

end

/-- The start of a line at a depth of nesting. -/
def lineAt (depth : Nat) : String :=
  "\n" ++ String.ofList (List.replicate (2 * depth) ' ')

/-- Items on lines of their own between an opening and a closing bracket. -/
def bracketed (opening closing : String) (depth : Nat) (items : List String) : String :=
  if items.isEmpty then opening ++ closing
  else
    opening ++ lineAt (depth + 1) ++ ("," ++ lineAt (depth + 1)).intercalate items ++
      lineAt depth ++ closing

mutual

/-- The document with one item or field a line, indented by two blanks for each level. -/
def pretty (depth : Nat) : Json → String
  | arr items => bracketed "[" "]" depth (prettyItems (depth + 1) items)
  | obj fields => bracketed "\x7b" "\x7d" depth (prettyFields (depth + 1) fields)
  | value => value.compact

/-- The items of a list, each as it stands at a depth. -/
def prettyItems (depth : Nat) : List Json → List String
  | [] => []
  | item :: rest => item.pretty depth :: prettyItems depth rest

/-- Fields, each as it stands at a depth. -/
def prettyFields (depth : Nat) : List (String × Json) → List String
  | [] => []
  | (name, value) :: rest =>
    (quoted name ++ ": " ++ value.pretty depth) :: prettyFields depth rest

end

/-- The value of a field of an object. -/
def get? (value : Json) (name : String) : Option Json :=
  match value with
  | obj fields => fields.lookup name
  | _ => none

/-- A text, if the value is one. -/
def str? : Json → Option String
  | str s => some s
  | _ => none

/-- A truth value, if the value is one. -/
def bool? : Json → Option Bool
  | bool b => some b
  | _ => none

/-- A whole number that is not negative, if the value is one. -/
def nat? : Json → Option Nat
  | int n => if n < 0 then none else some n.toNat
  | _ => none

/-- A whole number, if the value is one. -/
def int? : Json → Option Int
  | int n => some n
  | _ => none

/-- A number as a double, if the value is one. -/
def float? : Json → Option Float
  | int n => some (Number.ofInt n)
  | float x => some x
  | _ => none

/-- The items of a list, all decoded. -/
def list? {α : Type} (decode : Json → Option α) : Json → Option (List α)
  | arr items => items.mapM decode
  | _ => none

/-- A value of an enumeration by its name. -/
def named? {α : Type} (all : List α) (name : α → String) (j : Json) : Option α :=
  j.str?.bind fun s => all.find? fun a => name a == s

/-- A decoded field. -/
def field? {α : Type} (value : Json) (name : String) (decode : Json → Option α) : Option α :=
  (value.get? name).bind decode

/-- A decoded field that may be absent or null. -/
def optional? {α : Type} (value : Json) (name : String) (decode : Json → Option α) :
    Option (Option α) :=
  match value.get? name with
  | none | some null => some none
  | some v => (decode v).map some

/-- A decoded field that has a value of its own when it is absent. -/
def fieldOr? {α : Type} (value : Json) (name : String) (otherwise : α) (decode : Json → Option α) :
    Option α :=
  match value.get? name with
  | none => some otherwise
  | some v => decode v

mutual

/-- The first value changed by the second: objects field by field, anything else replaced. -/
def merge : Json → Json → Json
  | obj fields, obj changes => obj (mergeFields fields changes)
  | _, change => change

/-- Fields changed one after the other. -/
def mergeFields (fields : List (String × Json)) : List (String × Json) → List (String × Json)
  | [] => fields
  | (name, change) :: rest =>
    let present := fields.lookup name
    let value := match present with
      | some old => merge old change
      | none => change
    let changed :=
      match present with
      | some _ => fields.map fun (key, old) => if key == name then (key, value) else (key, old)
      | none => fields ++ [(name, value)]
    mergeFields changed rest

end

end Json

end Adjudicator
