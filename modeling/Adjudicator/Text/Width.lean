import Adjudicator.Text.Table.Wide
import Adjudicator.Text.WordChar

/-!
# Columns

How many columns of a terminal a text takes. Most characters take one, those of East Asian scripts
and pictures two, and marks none. Some characters are pictures only when a mark behind them asks for
one. Pictures that are joined, or toned, take the columns of the first.
-/

namespace Adjudicator.Text

/-- Whether a character takes two columns. -/
def isWide (c : Char) : Bool :=
  0x1100 ≤ c.toNat && inRanges Table.wide c.toNat

/-- The columns of a character that stands alone. -/
def charWidth (c : Char) : Nat :=
  if c.toNat < 0xA0 then 1
  else if inRanges Table.zeroWidth c.toNat then 0
  else if isWide c then 2
  else 1

/-- The character that joins pictures. -/
def isPictureJoiner (c : Char) : Bool :=
  c.toNat == 0x200D

/-- The mark that asks for a picture in place of the character before it. -/
def isPictureSelector (c : Char) : Bool :=
  c.toNat == 0xFE0F

/-- A character that changes the tone of the picture before it. -/
def isTone (c : Char) : Bool :=
  0x1F3FB ≤ c.toNat && c.toNat ≤ 0x1F3FF

/-- Whether a character is shown as a picture in front of the given text: by itself, or because the
text begins with the mark that asks for it. -/
def isPicture (c : Char) (rest : List Char) : Bool :=
  (isWide c && (c.toNat < 0x3000 || (0x1F000 ≤ c.toNat && c.toNat < 0x20000))) ||
    (rest.head?.any isPictureSelector && inRanges Table.selectable c.toNat)

/-- The columns of a text. The character before it may have been shown as a picture, or have joined
a picture to what follows. -/
def widthFrom (picture joined : Bool) : List Char → Nat
  | [] => 0
  | c :: rest =>
    if isPictureSelector c then widthFrom picture joined rest
    else if isPictureJoiner c then widthFrom false picture rest
    else if isPicture c rest then
      (if joined || (picture && isTone c) then 0 else 2) + widthFrom true false rest
    else charWidth c + widthFrom false false rest

/-- The columns of a text. -/
def width (s : List Char) : Nat :=
  widthFrom false false s

end Adjudicator.Text
