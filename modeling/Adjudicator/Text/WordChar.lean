import Adjudicator.Text.Table.Word

/-!
# Classes of characters

Letters, digits and the characters of identifiers, for all of Unicode. ASCII is decided directly;
the other code points are looked up in the tables of their property.
-/

namespace Adjudicator.Text

/-- Whether a code point lies in one of the closed ranges. -/
def inRanges (ranges : List (Nat × Nat)) (n : Nat) : Bool :=
  ranges.any fun r => r.1 ≤ n && n ≤ r.2

/-- `0` to `9`. -/
def isAsciiDigit (c : Char) : Bool :=
  '0' ≤ c && c ≤ '9'

/-- `A` to `Z`. -/
def isAsciiUpper (c : Char) : Bool :=
  'A' ≤ c && c ≤ 'Z'

/-- `a` to `z`. -/
def isAsciiLower (c : Char) : Bool :=
  'a' ≤ c && c ≤ 'z'

/-- A letter of ASCII. -/
def isAsciiLetter (c : Char) : Bool :=
  isAsciiUpper c || isAsciiLower c

/-- Unicode's decimal digits. -/
def isDigit (c : Char) : Bool :=
  if c.toNat < 128 then isAsciiDigit c else inRanges Table.decimalDigit c.toNat

/-- Letters and numerals of all scripts. -/
def isAlphanumeric (c : Char) : Bool :=
  if c.toNat < 128 then isAsciiLetter c || isAsciiDigit c
  else
    inRanges Table.alphabetic c.toNat || inRanges Table.decimalDigit c.toNat ||
      inRanges Table.otherNumeral c.toNat

/-- The punctuation that joins words, and the two characters that join or part letters. -/
def isJoiner (n : Nat) : Bool :=
  n == 0x5F || (0x203F ≤ n && n ≤ 0x2040) || n == 0x2054 || (0xFE33 ≤ n && n ≤ 0xFE34) ||
    (0xFE4D ≤ n && n ≤ 0xFE4F) || n == 0xFF3F || (0x200C ≤ n && n ≤ 0x200D)

/-- The characters of words: letters, marks, decimal digits and joiners. -/
def isWord (c : Char) : Bool :=
  if c.toNat < 128 then isAsciiLetter c || isAsciiDigit c || c == '_'
  else
    inRanges Table.alphabetic c.toNat || inRanges Table.mark c.toNat ||
      inRanges Table.decimalDigit c.toNat || isJoiner c.toNat

/-- A letter of ASCII is a word character. -/
theorem isWord_of_isAsciiLetter {c : Char} (h : isAsciiLetter c = true) : isWord c = true := by
  have hlt : c.toNat < 128 := by
    simp only [isAsciiLetter, isAsciiUpper, isAsciiLower, Bool.or_eq_true, Bool.and_eq_true,
      decide_eq_true_eq] at h
    rcases h with h | h
    · exact Nat.lt_of_le_of_lt (show c.toNat ≤ 90 from h.2) (by decide)
    · exact Nat.lt_of_le_of_lt (show c.toNat ≤ 122 from h.2) (by decide)
  simp [isWord, hlt, h]

/-- A decimal digit is a word character. -/
theorem isWord_of_isDigit {c : Char} (h : isDigit c = true) : isWord c = true := by
  unfold isDigit at h
  unfold isWord
  split at h
  next hlt => simp only [hlt, if_true, h, Bool.or_true, Bool.true_or]
  next hlt => simp only [hlt, if_false, h, Bool.or_true, Bool.true_or]

end Adjudicator.Text
