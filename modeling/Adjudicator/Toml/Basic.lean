import Adjudicator.Json.Basic

/-!
# Tables of settings

The values of the TOML format. A table remembers how it was made, for that decides what may still
be added to it: a table with a header of its own and one that was only passed through by a header
can get further tables, a table made by a key with points can get further keys of that kind, and
a table in braces is finished.
-/

namespace Adjudicator

/-- How a table was made. -/
inductive Making where
  /-- By a header of its own. -/
  | header
  /-- By the header of a table inside it. -/
  | passed
  /-- By a key with points. -/
  | dotted
deriving DecidableEq, Repr, Inhabited

/-- A value of a document. -/
inductive Toml where
  /-- A text. -/
  | text (s : String)
  /-- A whole number. -/
  | whole (n : Int)
  /-- A double. -/
  | double (x : Float)
  /-- A truth value. -/
  | truth (b : Bool)
  /-- A date, a time or both. -/
  | moment (s : String)
  /-- A list of values. -/
  | list (items : List Toml)
  /-- A table in braces. -/
  | inline (fields : List (String × Toml))
  /-- A table. -/
  | table (making : Making) (fields : List (String × Toml))
  /-- Tables with the same header. -/
  | tables (items : List (List (String × Toml)))
deriving Repr, Inhabited

namespace Toml

/-- Named values. -/
abbrev Fields :=
  List (String × Toml)

/-- Fields with the value of a name changed or added. -/
def setField (fields : Fields) (name : String) (value : Toml) : Fields :=
  if fields.any fun f => f.1 == name then
    fields.map fun f => if f.1 == name then (name, value) else f
  else fields ++ [(name, value)]

/-- A change of the fields of a table, given how it was made; nothing when it is not allowed. -/
abbrev Change :=
  Making → Fields → Option (Making × Fields)

/-- Changes the table that names lead to from a table. Tables that are missing are made, and of
tables with the same header the last is meant. A key with points does not lead through a table
with a header of its own. -/
def changeAt (byKey : Bool) : List String → Change → Change
  | [], change, making, fields => change making fields
  | name :: rest, change, making, fields =>
    match fields.lookup name with
    | none => do
      let (m, inner) ← changeAt byKey rest change (if byKey then .dotted else .passed) []
      some (making, fields ++ [(name, .table m inner)])
    | some (.table m inner) =>
      if byKey && m == .header then none
      else do
        let (m, inner) ← changeAt byKey rest change m inner
        some (making, setField fields name (.table m inner))
    | some (.tables items) => do
      let (_, inner) ← changeAt byKey rest change .header (items.getLast?.getD [])
      some (making, setField fields name (.tables (items.dropLast ++ [inner])))
    | some _ => none

/-- Adds a value under a name. The table has to be made by the same kind of key. -/
def addValue (behindPoint : Bool) (name : String) (value : Toml) : Change :=
  fun making fields =>
    if (making == .dotted) != behindPoint || fields.any fun f => f.1 == name then none
    else some (making, fields ++ [(name, value)])

/-- Adds a value under a key, whose last name is apart. -/
def addKey (names : List String) (last : String) (value : Toml) : Change :=
  changeAt true names (addValue (!names.isEmpty) last value)

/-- Gives a table a header of its own. -/
def addTable (name : String) : Change :=
  fun making fields =>
    match fields.lookup name with
    | none => some (making, fields ++ [(name, .table .header [])])
    | some (.table .passed inner) => some (making, setField fields name (.table .header inner))
    | some _ => none

/-- Adds one of several tables with the same header. -/
def addToTables (name : String) : Change :=
  fun making fields =>
    match fields.lookup name with
    | none => some (making, fields ++ [(name, .tables [[]])])
    | some (.tables items) => some (making, setField fields name (.tables (items ++ [[]])))
    | some _ => none

/-- A part of a structure: a named field of a table, or else the value at its position in a
list. -/
def part? (value : Toml) (position : Nat) (name : String) : Option Toml :=
  match value with
  | table _ fields | inline fields => fields.lookup name
  | list items => items[position]?
  | tables items => items[position]?.map (.table .header)
  | _ => none

/-- Whether a value has parts. -/
def hasParts : Toml → Bool
  | table _ _ | inline _ | list _ | tables _ => true
  | _ => false

end Toml

end Adjudicator
