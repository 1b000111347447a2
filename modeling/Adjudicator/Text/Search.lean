/-!
# Searching and cutting texts

Finding a word inside a text, cutting a text at a word or at a class of characters, and
replacing. All functions read from left to right and take the first place that fits.
-/

namespace Adjudicator.Text

/-- Whether `word` occurs in `s`. -/
def contains (word s : List Char) : Bool :=
  match s with
  | [] => word.isEmpty
  | c :: rest => word.isPrefixOf (c :: rest) || contains word rest

/-- What comes before and after the first occurrence of `word`. -/
def cutAt? (word : List Char) : List Char → Option (List Char × List Char)
  | [] => if word.isEmpty then some ([], []) else none
  | c :: rest =>
    match word.isPrefixOf? (c :: rest) with
    | some after => some ([], after)
    | none => (cutAt? word rest).map fun (before, after) => (c :: before, after)

/-- What comes before and after the first character in `p`. -/
def cutWhere? (p : Char → Bool) : List Char → Option (List Char × List Char)
  | [] => none
  | c :: rest =>
    if p c then some ([], rest)
    else (cutWhere? p rest).map fun (before, after) => (c :: before, after)

/-- The pieces of `s` between the characters in `p`; there is always at least one piece. -/
def splitWhere (p : Char → Bool) : List Char → List (List Char)
  | [] => [[]]
  | c :: rest =>
    if p c then [] :: splitWhere p rest
    else
      match splitWhere p rest with
      | [] => [[c]]
      | piece :: pieces => (c :: piece) :: pieces

/-- The pieces of `s` between the occurrences of `word`, read from `s` with a skip count for the
characters of an occurrence already found. -/
def splitOnFrom (word : List Char) : Nat → List Char → List Char → List (List Char)
  | _, piece, [] => [piece.reverse]
  | skip + 1, piece, _ :: rest => splitOnFrom word skip piece rest
  | 0, piece, c :: rest =>
    if word.isPrefixOf (c :: rest) then piece.reverse :: splitOnFrom word (word.length - 1) [] rest
    else splitOnFrom word 0 (c :: piece) rest

/-- The pieces of `s` between the non-overlapping occurrences of the non-empty `word`. -/
def splitOn (word s : List Char) : List (List Char) :=
  splitOnFrom word 0 [] s

/-- `s` with every non-overlapping occurrence of the non-empty `word` replaced by `new`. -/
def replace (word new s : List Char) : List Char :=
  List.intercalate new (splitOn word s)

/-- The part of `s` after its last character in `p`, or all of `s`. -/
def afterLast (p : Char → Bool) (s : List Char) : List Char :=
  (s.reverse.takeWhile fun c => !p c).reverse

/-- The words of `s` that blanks separate, for the blanks in `p`. -/
def wordsWhere (p : Char → Bool) (s : List Char) : List (List Char) :=
  (splitWhere p s).filter fun piece => !piece.isEmpty

/-- What follows `start` in `s`, when `s` begins with it. -/
def afterStart? (start s : List Char) : Option (List Char) :=
  start.isPrefixOf? s

/-- What precedes `ending` in `s`, when `s` ends with it. -/
def beforeEnd? (ending s : List Char) : Option (List Char) :=
  ending.isSuffixOf? s

/-- Number of bytes of a text in UTF-8. -/
def byteLength : List Char → Nat
  | [] => 0
  | c :: s => c.utf8Size + byteLength s

/-- The part of `s` that starts `offset` bytes into its UTF-8 form, when a character starts
there. -/
def dropBytes? : Nat → List Char → Option (List Char)
  | 0, s => some s
  | _ + 1, [] => none
  | offset + 1, c :: rest =>
    if c.utf8Size ≤ offset + 1 then dropBytes? (offset + 1 - c.utf8Size) rest else none

end Adjudicator.Text
