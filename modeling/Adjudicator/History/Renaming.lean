import Adjudicator.Folder.Basic

/-!
# Renamed files

A file that is new in a revision continues a file that is gone from it when both are alike: equal,
or sharing at least half of their lines. Every file continues at most one other and is continued by
at most one; of several the likest is chosen.
-/

namespace Adjudicator.Renaming

/-- The greatest number of bytes of a piece. -/
def pieceLength : Nat :=
  80

/-- The least number of pieces of texts that can be alike without being equal. -/
def leastPieces : Nat :=
  4

/-- The least likeness, in percent, of a file and the one that continues it. -/
def leastLikeness : Nat :=
  50

/-- Whether a byte ends a line. -/
def endsLine (b : UInt8) : Bool :=
  b == 10 || b == 0

/-- Whether a byte is a blank within a line. -/
def isBlank (b : UInt8) : Bool :=
  b == 32 || (9 ≤ b && b ≤ 13 && b != 10)

/-- Bytes cut behind every so many. -/
def cut (length : Nat) : Nat → List UInt8 → List (List UInt8)
  | _, [] => [[]]
  | left, b :: rest =>
    match cut length (if left = 0 then length - 1 else left - 1) rest with
    | first :: others => if left = 0 then [] :: (b :: first) :: others else (b :: first) :: others
    | [] => [[b]]

/-- The lines of bytes. -/
def lines : List UInt8 → List (List UInt8)
  | [] => [[]]
  | b :: rest =>
    match lines rest with
    | first :: others => if endsLine b then [] :: first :: others else (b :: first) :: others
    | [] => [[b]]

/-- The pieces of a text: its lines without blanks at their start and without carriage returns, long
ones in several pieces, and no empty ones. -/
def pieces (text : String) : List (List UInt8) :=
  let trimmed := (lines text.toUTF8.toList).map fun l => (l.dropWhile isBlank).filter (· != 13)
  (trimmed.flatMap (cut pieceLength pieceLength)).filter fun l => !l.isEmpty

/-- The number of items that two lists share, each as often as it is in both. -/
def sharedCount {α : Type} [BEq α] : List α → List α → Nat
  | [], _ => 0
  | a :: as, bs => if bs.contains a then sharedCount as (bs.erase a) + 1 else sharedCount as bs

/-- Whether two sizes are too different for a closer look. -/
def tooDifferent (a b : Nat) : Bool :=
  127 < a && 127 < b && (b * 8 < a || a * 8 < b)

/-- How alike two texts are, in percent, when that can be told. -/
def likeness? (a b : String) : Option Nat :=
  if a = b then some 100
  else if tooDifferent a.utf8ByteSize b.utf8ByteSize then none
  else
    let inA := pieces a
    let inB := pieces b
    if inA.length < leastPieces || inB.length < leastPieces then none
    else some (100 * (sharedCount inA inB * 2) / (inA.length + inB.length))

/-- A file that may continue another. -/
structure Match where
  /-- The file that is gone. -/
  gone : Trail
  /-- The file that is new. -/
  new : Trail
  /-- How alike they are. -/
  likeness : Nat
deriving DecidableEq, Repr

/-- Matches with another one, when it is better than all that it excludes. -/
def improve (chosen : List Match) (m : Match) : List Match :=
  let (rivals, others) := chosen.partition fun c => c.gone = m.gone || c.new = m.new
  if rivals.all fun c => c.likeness < m.likeness then others ++ [m] else chosen

/-- Matches chosen one after the other, as often as the choice changes, at most so many times. -/
def choose (candidates : List Match) : Nat → List Match → List Match
  | 0, chosen => chosen
  | bound + 1, chosen =>
    let next := candidates.foldl improve chosen
    if next = chosen then chosen else choose candidates bound next

/-- Files sorted by their paths. -/
def sorted (files : List (Trail × String)) : List (Trail × String) :=
  files.mergeSort fun a b => Folder.pathOf a.1 ≤ Folder.pathOf b.1

/-- The candidates among files that are gone and new ones. -/
def candidates (gone new : List (Trail × String)) : List Match :=
  (sorted new).flatMap fun (n, newText) =>
    (sorted gone).filterMap fun (g, goneText) =>
      (likeness? goneText newText).bind fun l => if l = 0 then none else some ⟨g, n, l⟩

/-- The file that a new file continues. -/
def continued? (gone new : List (Trail × String)) (t : Trail) : Option Trail :=
  let all := candidates gone new
  ((choose all (all.length + 1) []).find? fun m => m.new = t && leastLikeness ≤ m.likeness).map
    Match.gone

end Adjudicator.Renaming
