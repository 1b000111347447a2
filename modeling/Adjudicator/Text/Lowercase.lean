import Adjudicator.Text.Table.Lowercase
import Adjudicator.Text.WordChar

/-!
# Lower case

Lower case of a text by Unicode's full mapping: one character for one, except that a capital I
with a dot becomes two characters and that a capital sigma at the end of a word takes the final
form. `foldEq` compares two texts by the letters of ASCII alone.
-/

namespace Adjudicator.Text

/-- The code point that `run` assigns to `n`, when it covers `n`. -/
def Table.LowerRun.lowered? (run : Table.LowerRun) (n : Nat) : Option Nat :=
  if run.first ≤ n && n ≤ run.last && (n - run.first) % run.stride == 0 then
    some (n + run.distance).toNat
  else none

/-- Lower case of one character where that is one character. -/
def lowerChar (c : Char) : Char :=
  if c.toNat < 128 then if isAsciiUpper c then Char.ofNat (c.toNat + 32) else c
  else ((Table.lowerRuns.findSome? (·.lowered? c.toNat)).map Char.ofNat).getD c

/-- Whether the nearest character that is not skipped has a case. -/
def casedNext (s : List Char) : Bool :=
  match s.dropWhile (fun c => inRanges Table.caseIgnorable c.toNat) with
  | c :: _ => inRanges Table.cased c.toNat
  | [] => false

/-- Lower case of a text whose earlier characters, newest first, are `before`. -/
def lowerFrom (before : List Char) : List Char → List Char
  | [] => []
  | c :: rest =>
    let lowered :=
      if c = 'Σ' then [if casedNext before && !casedNext rest then 'ς' else 'σ']
      else if c = 'İ' then ['i', Char.ofNat 0x307]
      else [lowerChar c]
    lowered ++ lowerFrom (c :: before) rest

/-- Lower case of a text. -/
def lower (s : List Char) : List Char :=
  lowerFrom [] s

/-- Lower case of the letters of ASCII; all else stays. -/
def asciiLowerChar (c : Char) : Char :=
  if isAsciiUpper c then Char.ofNat (c.toNat + 32) else c

/-- Equality of texts up to the case of ASCII letters. -/
def foldEq (a b : List Char) : Bool :=
  a.map asciiLowerChar == b.map asciiLowerChar

end Adjudicator.Text
