import Adjudicator.Proofs.Value.Numeral

/-!
# Reading expressions

Reading goes down from sums to factors and on behind each operator. Main statements: whatever is
read is derived and has the value that comes with it; and since a phrase is never empty, reading
ends after a number of calls that the length of the text bounds, so more fuel changes nothing.
-/

namespace Adjudicator.Value

open Text

namespace Level

/-- Reads a phrase of a level. -/
def read? : Level → Nat → List Char → Option (Float × List Char)
  | factor => factor?
  | product => product?
  | sum => sum?

/-- Reads on behind a phrase of a level; a factor does not go on. -/
def readOn? : Level → Nat → Float → List Char → Option (Float × List Char)
  | factor => fun _ x s => some (x, s)
  | product => productFrom?
  | sum => sumFrom?

/-- How many levels are further inside. -/
def rank : Level → Nat
  | factor => 0
  | product => 1
  | sum => 2

/-- Fuel that is enough to read a phrase of a level. -/
def enough (l : Level) (s : List Char) : Nat :=
  3 * s.length + l.rank + 1

end Level

/-! ## One call -/

section Calls

variable {fuel : Nat} {x : Float} {s rest : List Char}

/-- A phrase that is no factor begins with a phrase of the level inside. -/
theorem read?_succ {l : Level} (hl : l ≠ .factor) :
    l.read? (fuel + 1) s = (l.inner.read? fuel s).bind fun r => l.readOn? fuel r.1 r.2 := by
  cases l with
  | factor => exact absurd rfl hl
  | product =>
    simp only [Level.read?, Level.inner, Level.readOn?, product?]
    cases factor? fuel s <;> rfl
  | sum =>
    simp only [Level.read?, Level.inner, Level.readOn?, sum?]
    cases product? fuel s <;> rfl

/-- Behind an operator stands its operand; a division by zero ends reading. -/
theorem readOn?_operator {o : Operator} (h : s.dropWhile isAsciiBlank = o.sign :: rest) :
    o.level.readOn? (fuel + 1) x s = (o.level.inner.read? fuel rest).bind fun r =>
      if o = .dividedBy ∧ (r.1 == 0.0) = true then none
      else o.level.readOn? fuel (o.apply x r.1) r.2 := by
  cases o
  all_goals
    simp only [Operator.level, Level.readOn?, Level.inner, Level.read?, Operator.apply, sumFrom?,
      productFrom?]
    rw [h]
    simp only [Operator.sign]
  case plus => cases product? fuel rest <;> simp
  case minus => cases product? fuel rest <;> simp
  case times => cases factor? fuel rest <;> simp
  case dividedBy => cases factor? fuel rest <;> simp

/-- A phrase ends where no operator of its level follows. -/
theorem readOn?_stop {l : Level} (hl : l ≠ .factor)
    (h : ∀ o : Operator, o.level = l → ∀ rest, s.dropWhile isAsciiBlank ≠ o.sign :: rest) :
    l.readOn? (fuel + 1) x s = some (x, s.dropWhile isAsciiBlank) := by
  cases l with
  | factor => exact absurd rfl hl
  | product =>
    simp only [Level.readOn?, productFrom?]
    split
    · exact absurd ‹_› (h .times rfl _)
    · exact absurd ‹_› (h .dividedBy rfl _)
    · rfl
  | sum =>
    simp only [Level.readOn?, sumFrom?]
    split
    · exact absurd ‹_› (h .plus rfl _)
    · exact absurd ‹_› (h .minus rfl _)
    · rfl

/-- A minus sign stands in front of a factor. -/
theorem factor?_minus (h : s.dropWhile isAsciiBlank = '-' :: rest) :
    factor? (fuel + 1) s = (factor? fuel rest).map fun r => (-r.1, r.2) := by
  simp only [factor?]
  rw [h]
  simp only []
  cases factor? fuel rest <;> rfl

/-- A plus sign stands in front of a factor. -/
theorem factor?_plus (h : s.dropWhile isAsciiBlank = '+' :: rest) :
    factor? (fuel + 1) s = factor? fuel rest := by
  simp only [factor?]
  rw [h]
  rfl

/-- What follows a closing parenthesis. -/
def afterClosing? (s : List Char) : Option (List Char) :=
  match s.dropWhile isAsciiBlank with
  | ')' :: rest => some rest
  | _ => none

/-- A sum stands in parentheses. -/
theorem factor?_group (h : s.dropWhile isAsciiBlank = '(' :: rest) :
    factor? (fuel + 1) s =
      (sum? fuel rest).bind fun r => (afterClosing? r.2).map fun rest => (r.1, rest) := by
  simp only [factor?]
  rw [h]
  simp only [afterClosing?]
  cases sum? fuel rest with
  | none => rfl
  | some r =>
    simp only [Option.bind_some]
    rcases r.2.dropWhile isAsciiBlank with _ | ⟨c, t⟩
    · rfl
    · by_cases hc : c = ')'
      · subst hc
        rfl
      · simp [hc]

/-- Anything else has to be a number. -/
theorem factor?_number (hminus : ∀ rest, s.dropWhile isAsciiBlank ≠ '-' :: rest)
    (hplus : ∀ rest, s.dropWhile isAsciiBlank ≠ '+' :: rest)
    (hgroup : ∀ rest, s.dropWhile isAsciiBlank ≠ '(' :: rest) :
    factor? (fuel + 1) s = number? (s.dropWhile isAsciiBlank) := by
  simp only [factor?]

end Calls

/-! ## What is read is derived -/

/-- Up to `rest`, and with blanks in front of it, `s` is a phrase of a level with the value `x`. -/
def Spelled (l : Level) (x : Float) (s rest : List Char) : Prop :=
  ∃ e t b, s = t ++ (b ++ rest) ∧ Derives l e t ∧ Blanks b ∧ e.NoZeroDivisor ∧ e.value = x

private theorem exists_blanks (s : List Char) : ∃ b, Blanks b ∧ s = b ++ s.dropWhile isAsciiBlank :=
  ⟨s.takeWhile isAsciiBlank, List.all_eq_true.mp List.all_takeWhile,
    List.takeWhile_append_dropWhile.symm⟩

private theorem Blanks.append {b b' : List Char} (h : Blanks b) (h' : Blanks b') :
    Blanks (b ++ b') := by
  intro c hc
  rcases List.mem_append.mp hc with hc | hc
  · exact h c hc
  · exact h' c hc

namespace Spelled

variable {l : Level} {x y : Float} {s rest rest' : List Char}

/-- A phrase of the level inside is a phrase. -/
theorem single (h : Spelled l.inner x s rest) : Spelled l x s rest := by
  obtain ⟨e, t, b, hs, he, hb, hzero, hx⟩ := h
  exact ⟨e, t, b, hs, .single he, hb, hzero, hx⟩

/-- Blanks behind a phrase can be left out of what follows it. -/
theorem dropWhile (h : Spelled l x s rest) : Spelled l x s (rest.dropWhile isAsciiBlank) := by
  obtain ⟨e, t, b, rfl, he, hb, hzero, hx⟩ := h
  obtain ⟨b', hb', hrest⟩ := exists_blanks rest
  refine ⟨e, t, b ++ b', ?_, he, hb.append hb', hzero, hx⟩
  rw [List.append_assoc, ← hrest]

/-- Two phrases with an operator between them. -/
theorem operator {o : Operator} (h : Spelled o.level x s rest)
    (hrest : rest.dropWhile isAsciiBlank = o.sign :: rest') {rest'' : List Char}
    (h' : Spelled o.level.inner y rest' rest'') (hzero : o = .dividedBy → (y == 0.0) = false) :
    Spelled o.level (o.apply x y) s rest'' := by
  obtain ⟨e, t, b, hs, he, hb, hzeroe, rfl⟩ := h.dropWhile
  obtain ⟨e', t', b', rfl, he', hb', hzeroe', rfl⟩ := h'
  refine ⟨.binary o e e', t ++ (b ++ o.sign :: t'), b', ?_, .binary he hb he', hb',
    ⟨hzeroe, hzeroe', hzero⟩, rfl⟩
  rw [hs, hrest]
  simp only [List.append_assoc, List.cons_append]

end Spelled

/-- A numeral that is read. -/
private theorem spelled_of_number? {s rest : List Char} {x : Float}
    (h : number? (s.dropWhile isAsciiBlank) = some (x, rest)) : Spelled .factor x s rest := by
  obtain ⟨b, hb, hs⟩ := exists_blanks s
  obtain ⟨value, hvalue, he⟩ := Option.map_eq_some_iff.mp h
  obtain ⟨rfl, rfl⟩ := Prod.mk.inj he
  have hchars : ∀ c ∈ (s.dropWhile isAsciiBlank).takeWhile isNumberChar, isNumberChar c = true :=
    List.all_eq_true.mp List.all_takeWhile
  have hnumeral : IsNumeral ((s.dropWhile isAsciiBlank).takeWhile isNumberChar) := by
    rw [← isSome_readFloat?_iff hchars, hvalue]
    rfl
  refine ⟨.numeral _, _, [], ?_, .numeral hb hnumeral, nofun, trivial, ?_⟩
  · rw [List.nil_append, List.append_assoc, List.takeWhile_append_dropWhile, ← hs]
  · rw [Expression.value, hvalue, Option.getD_some]

/-- A sum in parentheses that is read. -/
private theorem spelled_of_group {s rest rest' rest'' : List Char} {x : Float}
    (hs : s.dropWhile isAsciiBlank = '(' :: rest) (h : Spelled .sum x rest rest')
    (hclosing : afterClosing? rest' = some rest'') : Spelled .factor x s rest'' := by
  obtain ⟨b, hb, hsplit⟩ := exists_blanks s
  obtain ⟨e, t, b', hrest, he, hb', hzero, hx⟩ := h.dropWhile
  have hdrop : rest'.dropWhile isAsciiBlank = ')' :: rest'' := by
    unfold afterClosing? at hclosing
    split at hclosing
    next hdrop =>
      obtain rfl := Option.some.inj hclosing
      exact hdrop
    next => cases hclosing
  refine ⟨e, _, [], ?_, .group hb he hb', nofun, hzero, hx⟩
  rw [hsplit, hs, hrest, hdrop]
  simp only [List.append_assoc, List.cons_append, List.nil_append]

/-- A factor behind a sign that is read. -/
private theorem spelled_of_minus {s rest rest' : List Char} {x : Float}
    (hs : s.dropWhile isAsciiBlank = '-' :: rest) (h : Spelled .factor x rest rest') :
    Spelled .factor (-x) s rest' := by
  obtain ⟨b, hb, hsplit⟩ := exists_blanks s
  obtain ⟨e, t, b', hrest, he, hb', hzero, rfl⟩ := h
  refine ⟨.negative e, _, b', ?_, .negative hb he, hb', hzero, rfl⟩
  rw [hsplit, hs, hrest]
  simp only [List.append_assoc, List.cons_append]

private theorem spelled_of_plus {s rest rest' : List Char} {x : Float}
    (hs : s.dropWhile isAsciiBlank = '+' :: rest) (h : Spelled .factor x rest rest') :
    Spelled .factor x s rest' := by
  obtain ⟨b, hb, hsplit⟩ := exists_blanks s
  obtain ⟨e, t, b', hrest, he, hb', hzero, hx⟩ := h
  refine ⟨e, _, b', ?_, .positive hb he, hb', hzero, hx⟩
  rw [hsplit, hs, hrest]
  simp only [List.append_assoc, List.cons_append]

private theorem spelled_of_factor {fuel : Nat}
    (ihFactor : ∀ s x rest, factor? fuel s = some (x, rest) → Spelled .factor x s rest)
    (ihSum : ∀ s x rest, sum? fuel s = some (x, rest) → Spelled .sum x s rest)
    {s rest : List Char} {x : Float} (h : factor? (fuel + 1) s = some (x, rest)) :
    Spelled .factor x s rest := by
  by_cases hminus : ∃ rest', s.dropWhile isAsciiBlank = '-' :: rest'
  · obtain ⟨rest', hs⟩ := hminus
    rw [factor?_minus hs] at h
    obtain ⟨r, hr, he⟩ := Option.map_eq_some_iff.mp h
    obtain ⟨rfl, rfl⟩ := Prod.mk.inj he
    exact spelled_of_minus hs (ihFactor _ _ _ hr)
  by_cases hplus : ∃ rest', s.dropWhile isAsciiBlank = '+' :: rest'
  · obtain ⟨rest', hs⟩ := hplus
    rw [factor?_plus hs] at h
    exact spelled_of_plus hs (ihFactor _ _ _ h)
  by_cases hgroup : ∃ rest', s.dropWhile isAsciiBlank = '(' :: rest'
  · obtain ⟨rest', hs⟩ := hgroup
    rw [factor?_group hs] at h
    obtain ⟨r, hr, hclosing⟩ := Option.bind_eq_some_iff.mp h
    obtain ⟨rest'', hrest, he⟩ := Option.map_eq_some_iff.mp hclosing
    obtain ⟨rfl, rfl⟩ := Prod.mk.inj he
    exact spelled_of_group hs (ihSum _ _ _ hr) hrest
  · rw [factor?_number (not_exists.mp hminus) (not_exists.mp hplus) (not_exists.mp hgroup)] at h
    exact spelled_of_number? h

/-- What is read is derived, and reading on extends what was derived before. -/
private theorem spelled_of_calls (fuel : Nat) :
    (∀ l s x rest, Level.read? l fuel s = some (x, rest) → Spelled l x s rest) ∧
    ∀ l x s y rest whole, Level.readOn? l fuel x s = some (y, rest) → Spelled l x whole s →
      Spelled l y whole rest := by
  induction fuel with
  | zero =>
    constructor
    · intro l s x rest h
      cases l <;> cases h
    · intro l x s y rest whole h hx
      cases l with
      | factor =>
        cases h
        exact hx
      | product => cases h
      | sum => cases h
  | succ fuel ih =>
    obtain ⟨ihRead, ihReadOn⟩ := ih
    constructor
    · intro l s x rest h
      by_cases hl : l = .factor
      · subst hl
        exact spelled_of_factor (ihRead .factor) (ihRead .sum) h
      · rw [read?_succ hl] at h
        obtain ⟨r, hr, hon⟩ := Option.bind_eq_some_iff.mp h
        exact ihReadOn l r.1 r.2 x rest s hon (ihRead l.inner s r.1 r.2 hr).single
    · intro l x s y rest whole h hx
      by_cases hl : l = .factor
      · subst hl
        cases h
        exact hx
      · by_cases hoperator :
          ∃ o : Operator, o.level = l ∧ ∃ rest, s.dropWhile isAsciiBlank = o.sign :: rest
        · obtain ⟨o, rfl, rest', hs⟩ := hoperator
          rw [readOn?_operator hs] at h
          obtain ⟨r, hr, hon⟩ := Option.bind_eq_some_iff.mp h
          split at hon
          · cases hon
          next hzero =>
            refine ihReadOn _ _ _ y rest whole hon ?_
            refine hx.operator hs (ihRead _ _ _ _ hr) ?_
            intro ho
            exact Bool.eq_false_iff.mpr fun hr => hzero ⟨ho, hr⟩
        · rw [readOn?_stop hl fun o ho rest hs => hoperator ⟨o, ho, rest, hs⟩] at h
          obtain ⟨rfl, rfl⟩ := Prod.mk.inj (Option.some.inj h)
          exact hx.dropWhile

/-- What is read is derived and has the value that comes with it. -/
theorem spelled_of_read? {l : Level} {fuel : Nat} {s rest : List Char} {x : Float}
    (h : l.read? fuel s = some (x, rest)) : Spelled l x s rest :=
  (spelled_of_calls fuel).1 l s x rest h

/-! ## Enough fuel -/

/-- No phrase is empty. -/
theorem Derives.ne_nil {l : Level} {e : Expression} {t : List Char} (h : Derives l e t) :
    t ≠ [] := by
  induction h with
  | numeral _ hs =>
    obtain ⟨c, hc, _⟩ := hs.2.1
    exact List.append_ne_nil_of_right_ne_nil _ (List.ne_nil_of_mem hc)
  | single _ ih => exact ih
  | _ => simp

/-- What follows a phrase is shorter than the text. -/
theorem length_lt_of_read? {l : Level} {fuel : Nat} {s rest : List Char} {x : Float}
    (h : l.read? fuel s = some (x, rest)) : rest.length < s.length := by
  obtain ⟨e, t, b, rfl, he, _⟩ := spelled_of_read? h
  have ht : 0 < t.length := List.length_pos_iff.mpr he.ne_nil
  simp only [List.length_append]
  omega

/-- What follows the first character that is no blank is shorter than the text. -/
theorem length_lt_of_dropWhile {s rest : List Char} {c : Char}
    (h : s.dropWhile isAsciiBlank = c :: rest) : rest.length < s.length := by
  have hle := (List.dropWhile_suffix isAsciiBlank (l := s)).length_le
  rw [h, List.length_cons] at hle
  omega

/-- The level inside is the next one. -/
theorem rank_inner {l : Level} (hl : l ≠ .factor) : l.inner.rank + 1 = l.rank := by
  cases l with
  | factor => exact absurd rfl hl
  | product => rfl
  | sum => rfl

private theorem factor?_succ {fuel : Nat}
    (ihFactor : ∀ s, Level.enough .factor s ≤ fuel → factor? (fuel + 1) s = factor? fuel s)
    (ihSum : ∀ s, Level.enough .sum s ≤ fuel → sum? (fuel + 1) s = sum? fuel s) {s : List Char}
    (h : Level.enough .factor s ≤ fuel + 1) : factor? (fuel + 2) s = factor? (fuel + 1) s := by
  simp only [Level.enough, Level.rank] at ihFactor ihSum h
  by_cases hminus : ∃ rest, s.dropWhile isAsciiBlank = '-' :: rest
  · obtain ⟨rest, hs⟩ := hminus
    have hlt := length_lt_of_dropWhile hs
    rw [factor?_minus hs, factor?_minus hs, ihFactor rest (by omega)]
  by_cases hplus : ∃ rest, s.dropWhile isAsciiBlank = '+' :: rest
  · obtain ⟨rest, hs⟩ := hplus
    have hlt := length_lt_of_dropWhile hs
    rw [factor?_plus hs, factor?_plus hs, ihFactor rest (by omega)]
  by_cases hgroup : ∃ rest, s.dropWhile isAsciiBlank = '(' :: rest
  · obtain ⟨rest, hs⟩ := hgroup
    have hlt := length_lt_of_dropWhile hs
    rw [factor?_group hs, factor?_group hs, ihSum rest (by omega)]
  · rw [factor?_number (not_exists.mp hminus) (not_exists.mp hplus) (not_exists.mp hgroup),
      factor?_number (not_exists.mp hminus) (not_exists.mp hplus) (not_exists.mp hgroup)]

/-- With enough fuel, one more changes nothing. -/
private theorem calls_succ (fuel : Nat) :
    (∀ (l : Level) s, l.enough s ≤ fuel → l.read? (fuel + 1) s = l.read? fuel s) ∧
    ∀ (l : Level) x s, 3 * s.length + 1 ≤ fuel →
      l.readOn? (fuel + 1) x s = l.readOn? fuel x s := by
  induction fuel with
  | zero =>
    constructor
    · intro l s h
      simp only [Level.enough] at h
      omega
    · intro l x s h
      omega
  | succ fuel ih =>
    obtain ⟨ihRead, ihReadOn⟩ := ih
    constructor
    · intro l s h
      by_cases hl : l = .factor
      · subst hl
        exact factor?_succ (ihRead .factor) (ihRead .sum) h
      · have hrank := rank_inner hl
        simp only [Level.enough] at h
        rw [read?_succ hl, read?_succ hl,
          ihRead l.inner s (by simp only [Level.enough]; omega)]
        refine Option.bind_congr fun r hr => ?_
        have hlt := length_lt_of_read? hr
        exact ihReadOn l r.1 r.2 (by omega)
    · intro l x s h
      by_cases hl : l = .factor
      · subst hl
        rfl
      · by_cases hoperator :
          ∃ o : Operator, o.level = l ∧ ∃ rest, s.dropWhile isAsciiBlank = o.sign :: rest
        · obtain ⟨o, rfl, rest, hs⟩ := hoperator
          have hlt := length_lt_of_dropWhile hs
          have hrank : o.level.inner.rank ≤ 1 := by cases o <;> decide
          rw [readOn?_operator hs, readOn?_operator hs,
            ihRead _ rest (by simp only [Level.enough]; omega)]
          refine Option.bind_congr fun r hr => ?_
          have hlt' := length_lt_of_read? hr
          rw [ihReadOn o.level _ r.2 (by omega)]
        · have hstop := fun o ho rest hs => hoperator ⟨o, ho, rest, hs⟩
          rw [readOn?_stop hl hstop, readOn?_stop hl hstop]

/-- With enough fuel, more of it changes nothing. -/
theorem read?_of_enough {l : Level} {fuel : Nat} {s : List Char} (h : l.enough s ≤ fuel) :
    l.read? fuel s = l.read? (l.enough s) s := by
  induction h with
  | refl => rfl
  | step h ih => rw [(calls_succ _).1 l s h, ih]

/-- The same of reading on. -/
theorem readOn?_of_enough {l : Level} {fuel : Nat} {x : Float} {s : List Char}
    (h : 3 * s.length + 1 ≤ fuel) :
    l.readOn? fuel x s = l.readOn? (3 * s.length + 1) x s := by
  induction h with
  | refl => rfl
  | step h ih => rw [(calls_succ _).2 l x s h, ih]

end Adjudicator.Value
