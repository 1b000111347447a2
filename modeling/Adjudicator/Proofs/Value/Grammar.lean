import Adjudicator.Value.Expression
import Mathlib.Tactic.Common

/-!
# The grammar of expressions

A sum is a product with any number of further products behind signs, a product is a factor with
any number of further factors behind operators, and both are computed from left to right. A factor
is a numeral, a sum in parentheses, or a factor behind a sign. Blanks may stand in front of every
token. Every text that is derived holds only characters of expressions and closes all its
parentheses.
-/

namespace Adjudicator.Value

open Text

/-- The levels of expressions, from the inside to the outside. -/
inductive Level where
  | factor
  | product
  | sum
deriving DecidableEq, Repr

/-- The level of the operands on the right. -/
def Level.inner : Level → Level
  | factor => factor
  | product => factor
  | sum => product

/-- The operators between operands. -/
inductive Operator where
  | plus
  | minus
  | times
  | dividedBy
deriving DecidableEq, Repr

namespace Operator

/-- The character of an operator. -/
def sign : Operator → Char
  | plus => '+'
  | minus => '-'
  | times => '*'
  | dividedBy => '/'

/-- The level of what an operator makes. -/
def level : Operator → Level
  | plus | minus => .sum
  | times | dividedBy => .product

/-- The value of an operator. -/
def apply : Operator → Float → Float → Float
  | plus => fun x y => x + y
  | minus => fun x y => x - y
  | times => fun x y => x * y
  | dividedBy => fun x y => x / y

end Operator

/-- What a text says when signs that change nothing, parentheses and blanks are left out. -/
inductive Expression where
  /-- A numeral. -/
  | numeral (s : List Char)
  /-- A factor behind a minus sign. -/
  | negative (e : Expression)
  /-- Two operands. -/
  | binary (o : Operator) (a b : Expression)
deriving DecidableEq, Repr

namespace Expression

/-- The value of an expression. -/
def value : Expression → Float
  | numeral s => (Number.readFloat? s).getD 0.0
  | negative e => -e.value
  | binary o a b => o.apply a.value b.value

/-- No division of the expression has zero on its right. -/
def NoZeroDivisor : Expression → Prop
  | numeral _ => True
  | negative e => e.NoZeroDivisor
  | binary o a b => a.NoZeroDivisor ∧ b.NoZeroDivisor ∧ (o = .dividedBy → (b.value == 0.0) = false)

end Expression

/-- Digits and points with at least one digit and at most one point. -/
def IsNumeral (s : List Char) : Prop :=
  (∀ c ∈ s, isNumberChar c = true) ∧ (∃ c ∈ s, isAsciiDigit c = true) ∧ s.count '.' ≤ 1

/-- Only blanks of ASCII. -/
def Blanks (s : List Char) : Prop :=
  ∀ c ∈ s, isAsciiBlank c = true

/-- The texts of a level, with what they say. -/
inductive Derives : Level → Expression → List Char → Prop where
  | numeral {b s : List Char} (hb : Blanks b) (hs : IsNumeral s) :
      Derives .factor (.numeral s) (b ++ s)
  | negative {b t : List Char} {e : Expression} (hb : Blanks b) (h : Derives .factor e t) :
      Derives .factor (.negative e) (b ++ '-' :: t)
  | positive {b t : List Char} {e : Expression} (hb : Blanks b) (h : Derives .factor e t) :
      Derives .factor e (b ++ '+' :: t)
  | group {b b' t : List Char} {e : Expression} (hb : Blanks b) (h : Derives .sum e t)
      (hb' : Blanks b') : Derives .factor e (b ++ '(' :: (t ++ (b' ++ [')'])))
  | single {l : Level} {t : List Char} {e : Expression} (h : Derives l.inner e t) : Derives l e t
  | binary {o : Operator} {s b t : List Char} {e e' : Expression} (h : Derives o.level e s)
      (hb : Blanks b) (h' : Derives o.level.inner e' t) :
      Derives o.level (.binary o e e') (s ++ (b ++ o.sign :: t))

/-! ## Characters and parentheses -/

/-- A blank of ASCII is no other character of expressions. -/
theorem isNumberChar_eq_false_of_isAsciiBlank {c : Char} (h : isAsciiBlank c = true) :
    isNumberChar c = false := by
  simp only [isAsciiBlank, Bool.or_eq_true, beq_iff_eq] at h
  rcases h with (((rfl | rfl) | rfl) | rfl) | rfl <;> decide

private theorem isExpressionChar_of_isAsciiBlank {c : Char} (h : isAsciiBlank c = true) :
    isExpressionChar c = true := by
  simp only [isExpressionChar, isBlank_of_isAsciiBlank h, Bool.or_true, Bool.true_or]

/-- A digit of ASCII is a decimal digit. -/
theorem isDigit_of_isAsciiDigit {c : Char} (h : isAsciiDigit c = true) :
    isDigit c = true := by
  have hle : c.toNat ≤ '9'.toNat := by
    simp only [isAsciiDigit, Bool.and_eq_true, decide_eq_true_eq] at h
    exact h.2
  have hlt : c.toNat < 128 := Nat.lt_of_le_of_lt hle (by decide)
  rw [isDigit, if_pos hlt, h]

private theorem isExpressionChar_of_isNumberChar {c : Char} (h : isNumberChar c = true) :
    isExpressionChar c = true := by
  simp only [isNumberChar, Bool.or_eq_true, beq_iff_eq] at h
  rcases h with h | rfl
  · simp only [isExpressionChar, isDigit_of_isAsciiDigit h, Bool.true_or]
  · decide

private theorem all_of_blanks {b : List Char} (h : Blanks b) :
    b.all isExpressionChar = true :=
  List.all_eq_true.mpr fun c hc => isExpressionChar_of_isAsciiBlank (h c hc)

/-- A derived text holds only characters of expressions. -/
theorem Derives.all_isExpressionChar {l : Level} {e : Expression} {t : List Char}
    (h : Derives l e t) : t.all isExpressionChar = true := by
  induction h with
  | numeral hb hs =>
    rw [List.all_append, all_of_blanks hb, Bool.true_and, List.all_eq_true]
    exact fun c hc => isExpressionChar_of_isNumberChar (hs.1 c hc)
  | negative hb _ ih =>
    rw [List.all_append, all_of_blanks hb, List.all_cons, ih]
    decide
  | positive hb _ ih =>
    rw [List.all_append, all_of_blanks hb, List.all_cons, ih]
    decide
  | group hb _ hb' ih =>
    rw [List.all_append, all_of_blanks hb, List.all_cons, List.all_append, ih, List.all_append,
      all_of_blanks hb']
    decide
  | single _ ih => exact ih
  | @binary o _ _ _ _ _ _ hb _ ih ih' =>
    rw [List.all_append, ih, List.all_append, all_of_blanks hb, List.all_cons, ih']
    cases o <;> decide

private theorem balancedFrom_append {s : List Char} (hs : ∀ c ∈ s, c ≠ '(' ∧ c ≠ ')')
    (depth : Nat) (rest : List Char) : balancedFrom depth (s ++ rest) = balancedFrom depth rest := by
  induction s with
  | nil => rfl
  | cons c s ih =>
    obtain ⟨⟨hopen, hclose⟩, hs⟩ := List.forall_mem_cons.mp hs
    simp only [List.cons_append, balancedFrom, hopen, hclose, if_false, ih hs]

private theorem ne_parentheses {p : Char → Bool} (hopen : p '(' = false) (hclose : p ')' = false)
    {s : List Char} (h : ∀ c ∈ s, p c = true) : ∀ c ∈ s, c ≠ '(' ∧ c ≠ ')' := by
  intro c hc
  have hp := h c hc
  constructor
  · rintro rfl
    rw [hopen] at hp
    cases hp
  · rintro rfl
    rw [hclose] at hp
    cases hp

private theorem balancedFrom_blanks {b : List Char} (hb : Blanks b) (depth : Nat)
    (rest : List Char) : balancedFrom depth (b ++ rest) = balancedFrom depth rest :=
  balancedFrom_append (ne_parentheses (by decide) (by decide) hb) depth rest

private theorem balancedFrom_numeral {s : List Char} (hs : IsNumeral s) (depth : Nat)
    (rest : List Char) : balancedFrom depth (s ++ rest) = balancedFrom depth rest :=
  balancedFrom_append (ne_parentheses (by decide) (by decide) hs.1) depth rest

/-- A derived text closes all the parentheses that it opens. -/
theorem Derives.balancedFrom_append {l : Level} {e : Expression} {t : List Char}
    (h : Derives l e t) (depth : Nat) (rest : List Char) :
    balancedFrom depth (t ++ rest) = balancedFrom depth rest := by
  induction h generalizing depth rest with
  | numeral hb hs =>
    rw [List.append_assoc, balancedFrom_blanks hb, balancedFrom_numeral hs]
  | negative hb _ ih =>
    rw [List.append_assoc, balancedFrom_blanks hb]
    exact ih depth rest
  | positive hb _ ih =>
    rw [List.append_assoc, balancedFrom_blanks hb]
    exact ih depth rest
  | @group _ b' t _ hb _ hb' ih =>
    rw [List.append_assoc, balancedFrom_blanks hb]
    calc balancedFrom depth ('(' :: (t ++ (b' ++ [')'])) ++ rest)
        = balancedFrom (depth + 1) (t ++ (b' ++ ')' :: rest)) := by
          simp only [List.cons_append, List.append_assoc, List.nil_append, balancedFrom, if_true]
      _ = balancedFrom (depth + 1) (')' :: rest) := by
          rw [ih, balancedFrom_blanks hb']
      _ = balancedFrom depth rest := rfl
  | single _ ih => exact ih depth rest
  | @binary o _ _ t _ _ _ hb _ ih ih' =>
    rw [List.append_assoc, ih, List.append_assoc, balancedFrom_blanks hb]
    have hsign : balancedFrom depth (o.sign :: (t ++ rest)) = balancedFrom depth (t ++ rest) := by
      cases o <;> rfl
    rw [List.cons_append, hsign, ih']

end Adjudicator.Value
