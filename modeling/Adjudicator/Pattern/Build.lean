import Adjudicator.Pattern.Basic
import Adjudicator.Text.Blank
import Adjudicator.Text.WordChar

/-!
# Building patterns

Names for the classes of characters, the places and the repetitions that patterns are made of. A
string stands for the pattern of itself and `++` puts one pattern after another. Case is folded
as Unicode's simple folding does, under which `k` has the Kelvin sign and `s` the long s as
further forms.
-/

namespace Adjudicator.Pattern

open Text

/-- Exactly these characters in this order. -/
def chars : List Char → Pattern
  | [] => here
  | [c] => one (· == c)
  | c :: rest => seq (one (· == c)) (chars rest)

/-- Exactly this text. -/
def text (s : String) : Pattern :=
  chars s.toList

instance : Coe String Pattern :=
  ⟨text⟩

instance : Append Pattern :=
  ⟨seq⟩

/-- The first of the patterns that leads on; nothing when there is none. -/
def choice : List Pattern → Pattern
  | [] => one fun _ => false
  | [p] => p
  | p :: rest => either p (choice rest)

/-- Whether two characters are equal up to case, for a lower-case ASCII letter or another
character `c`. -/
def sameFolded (c x : Char) : Bool :=
  x == c || (isAsciiLower c && x.toNat + 32 == c.toNat) || (c == 'k' && x.toNat == 0x212A) ||
    (c == 's' && x.toNat == 0x17F)

/-- This text, whose letters are lower-case ASCII, in any case. -/
def anyCase (s : String) : Pattern :=
  s.toList.foldr (fun c p => one (sameFolded c) ++ p) here

/-- Any character but a line feed. -/
def dot : Pattern :=
  one (· != '\n')

/-- Any character. -/
def anything : Pattern :=
  one fun _ => true

/-- A blank. -/
def blank : Pattern :=
  one isBlank

/-- A word character. -/
def wordChar : Pattern :=
  one isWord

/-- A decimal digit. -/
def digit : Pattern :=
  one isDigit

/-- A character of `s`. -/
def anyOf (s : String) : Pattern :=
  let cs := s.toList
  one cs.contains

/-- A character outside `s`. -/
def noneOf (s : String) : Pattern :=
  let cs := s.toList
  one fun c => !cs.contains c

/-- A word character or a character of `s`. -/
def wordOr (s : String) : Pattern :=
  let cs := s.toList
  one fun c => isWord c || cs.contains c

/-- The start of the text. -/
def textStart : Pattern :=
  look fun prev _ => prev.isNone

/-- The end of the text. -/
def textEnd : Pattern :=
  look fun _ rest => rest.isEmpty

/-- The start of a line. -/
def lineStart : Pattern :=
  look fun prev _ => prev.all (· == '\n')

/-- The end of a line. -/
def lineEnd : Pattern :=
  look fun _ rest => rest.head?.all (· == '\n')

/-- A place between a word character and none. -/
def boundary : Pattern :=
  look fun prev rest => prev.any isWord != rest.head?.any isWord

/-- Any number of times, preferring more. -/
def star (p : Pattern) : Pattern :=
  many true p

/-- Any number of times, preferring fewer. -/
def starLazy (p : Pattern) : Pattern :=
  many false p

/-- At least once, preferring more. -/
def plus (p : Pattern) : Pattern :=
  p ++ p.star

/-- At least once, preferring fewer. -/
def plusLazy (p : Pattern) : Pattern :=
  p ++ p.starLazy

/-- Once if possible. -/
def opt (p : Pattern) : Pattern :=
  either p here

/-- At most `n` times, preferring more. -/
def atMost : Nat → Pattern → Pattern
  | 0, _ => here
  | n + 1, p => opt (p ++ atMost n p)

/-- Any number of blanks. -/
def gap : Pattern :=
  blank.star

/-- At least one blank. -/
def space : Pattern :=
  blank.plus

/-- At least one word character. -/
def word : Pattern :=
  wordChar.plus

/-- A start of the text or a character that is neither of a word nor a point. -/
def freshStart : Pattern :=
  either textStart (one fun c => !(isWord c || c == '.'))

/-- Digits with an optional fraction. -/
def decimal : Pattern :=
  digit.plus ++ opt ("." ++ digit.plus)

end Adjudicator.Pattern
