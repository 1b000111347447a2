/-!
# Blank characters and trimming

White space is Unicode's property White_Space. Trimming removes blanks from one or both ends and
nothing else: what `trim` drops is blank, and what it keeps neither starts nor ends with a blank.
-/

namespace Adjudicator.Text

/-- Unicode's White_Space. -/
def isBlank (c : Char) : Bool :=
  let n := c.toNat
  (9 ≤ n && n ≤ 13) || n == 0x20 || n == 0x85 || n == 0xA0 || n == 0x1680 ||
    (0x2000 ≤ n && n ≤ 0x200A) || n == 0x2028 || n == 0x2029 || n == 0x202F || n == 0x205F ||
    n == 0x3000

/-- The blanks of ASCII: space, tab, line feed, form feed and carriage return. -/
def isAsciiBlank (c : Char) : Bool :=
  c == ' ' || c == '\t' || c == '\n' || c == '\x0c' || c == '\r'

/-- `s` without its longest tail of characters in `p`. -/
def dropEndWhile (p : Char → Bool) (s : List Char) : List Char :=
  (s.reverse.dropWhile p).reverse

/-- `s` without leading blanks. -/
def trimStart (s : List Char) : List Char :=
  s.dropWhile isBlank

/-- `s` without trailing blanks. -/
def trimEnd (s : List Char) : List Char :=
  dropEndWhile isBlank s

/-- `s` without leading and trailing blanks. -/
def trim (s : List Char) : List Char :=
  trimEnd (trimStart s)

/-- Whether nothing remains after trimming. -/
def blank (s : List Char) : Bool :=
  s.all isBlank

/-- A blank of ASCII is a blank. -/
theorem isBlank_of_isAsciiBlank {c : Char} (h : isAsciiBlank c = true) : isBlank c = true := by
  simp only [isAsciiBlank, Bool.or_eq_true, beq_iff_eq] at h
  rcases h with (((rfl | rfl) | rfl) | rfl) | rfl <;> decide

end Adjudicator.Text
