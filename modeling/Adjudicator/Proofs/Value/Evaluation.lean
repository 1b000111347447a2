import Adjudicator.Proofs.Text.Trim
import Adjudicator.Proofs.Value.Reading

/-!
# Evaluating expressions

With enough fuel, reading a phrase obeys the equations of the grammar, so it goes through every
phrase that is derived. Main statement: exactly the texts that the grammar derives and that divide
by no zero are evaluated, each to its value, which is computed from the doubles nearest to its
numerals.
-/

namespace Adjudicator.Value

open Text

namespace Level

/-- What reading gives with enough fuel. -/
def run (l : Level) (s : List Char) : Option (Float × List Char) :=
  l.read? (l.enough s) s

/-- What reading on gives with enough fuel. -/
def runOn (l : Level) (x : Float) (s : List Char) : Option (Float × List Char) :=
  l.readOn? (3 * s.length + 1) x s

end Level

/-! ## Equations without fuel -/

section Equations

variable {l : Level} {x : Float} {s rest : List Char}

/-- A phrase that is no factor begins with a phrase of the level inside. -/
theorem run_eq (hl : l ≠ .factor) :
    l.run s = (l.inner.run s).bind fun r => l.runOn r.1 r.2 := by
  have hrank := rank_inner hl
  have hfuel : l.enough s = l.inner.enough s + 1 := by
    simp only [Level.enough]
    omega
  rw [Level.run, hfuel, read?_succ hl, Level.run]
  refine Option.bind_congr fun r hr => ?_
  have hlt := length_lt_of_read? hr
  refine readOn?_of_enough ?_
  simp only [Level.enough]
  omega

/-- Behind the first character that is no blank, fuel is left for a phrase of any level. -/
private theorem read?_behind {c : Char} (hs : s.dropWhile isAsciiBlank = c :: rest) :
    l.read? (3 * s.length) rest = l.run rest := by
  have hlt := length_lt_of_dropWhile hs
  have hrank : l.rank ≤ 2 := by cases l <;> decide
  refine read?_of_enough ?_
  simp only [Level.enough]
  omega

/-- Behind an operator stands its operand; a division by zero ends reading. -/
theorem runOn_operator {o : Operator} (hs : s.dropWhile isAsciiBlank = o.sign :: rest) :
    o.level.runOn x s = (o.level.inner.run rest).bind fun r =>
      if o = .dividedBy ∧ (r.1 == 0.0) = true then none
      else o.level.runOn (o.apply x r.1) r.2 := by
  have hlt := length_lt_of_dropWhile hs
  rw [Level.runOn, readOn?_operator hs, read?_behind hs]
  refine Option.bind_congr fun r hr => ?_
  have hlt' := length_lt_of_read? hr
  rw [readOn?_of_enough (by omega), Level.runOn]

/-- A phrase ends where no operator of its level follows. -/
theorem runOn_stop (hl : l ≠ .factor)
    (h : ∀ o : Operator, o.level = l → ∀ rest, s.dropWhile isAsciiBlank ≠ o.sign :: rest) :
    l.runOn x s = some (x, s.dropWhile isAsciiBlank) :=
  readOn?_stop hl h

/-- A minus sign stands in front of a factor. -/
theorem run_minus (hs : s.dropWhile isAsciiBlank = '-' :: rest) :
    Level.run .factor s = (Level.run .factor rest).map fun r => (-r.1, r.2) := by
  have hrun : factor? (3 * s.length) rest = Level.run .factor rest :=
    read?_behind (l := .factor) hs
  rw [← hrun]
  exact factor?_minus hs

/-- A plus sign stands in front of a factor. -/
theorem run_plus (hs : s.dropWhile isAsciiBlank = '+' :: rest) :
    Level.run .factor s = Level.run .factor rest := by
  have hrun : factor? (3 * s.length) rest = Level.run .factor rest :=
    read?_behind (l := .factor) hs
  rw [← hrun]
  exact factor?_plus hs

/-- A sum stands in parentheses. -/
theorem run_group (hs : s.dropWhile isAsciiBlank = '(' :: rest) :
    Level.run .factor s =
      (Level.run .sum rest).bind fun r => (afterClosing? r.2).map fun rest => (r.1, rest) := by
  have hrun : sum? (3 * s.length) rest = Level.run .sum rest :=
    read?_behind (l := .sum) hs
  rw [← hrun]
  exact factor?_group hs

/-- Anything else has to be a number. -/
theorem run_number (hminus : ∀ rest, s.dropWhile isAsciiBlank ≠ '-' :: rest)
    (hplus : ∀ rest, s.dropWhile isAsciiBlank ≠ '+' :: rest)
    (hgroup : ∀ rest, s.dropWhile isAsciiBlank ≠ '(' :: rest) :
    Level.run .factor s = number? (s.dropWhile isAsciiBlank) :=
  factor?_number hminus hplus hgroup

/-- Blanks in front of an operator do not matter. -/
theorem runOn_dropWhile (hl : l ≠ .factor) (x : Float) (s : List Char) :
    l.runOn x (s.dropWhile isAsciiBlank) = l.runOn x s := by
  by_cases hoperator :
    ∃ o : Operator, o.level = l ∧ ∃ rest, s.dropWhile isAsciiBlank = o.sign :: rest
  · obtain ⟨o, rfl, rest, hs⟩ := hoperator
    rw [runOn_operator hs, runOn_operator (by rw [List.dropWhile_idempotent, hs])]
  · have hstop := fun o ho rest hs => hoperator ⟨o, ho, rest, hs⟩
    rw [runOn_stop hl hstop, runOn_stop hl (by rwa [List.dropWhile_idempotent]),
      List.dropWhile_idempotent]

end Equations

/-! ## Every phrase is read -/

/-- What may follow a phrase of a level: no further character of a number, and no operator that
would belong to a product at the end of a sum. -/
def Stops (l : Level) (rest : List Char) : Prop :=
  (∀ c t, rest = c :: t → isNumberChar c = false) ∧
    (l = .sum → ∀ o : Operator, o.level = .product →
      ∀ t, rest.dropWhile isAsciiBlank ≠ o.sign :: t)

private theorem dropWhile_append {b : List Char} (hb : Blanks b) {c : Char}
    (hc : isAsciiBlank c = false) (t : List Char) :
    (b ++ c :: t).dropWhile isAsciiBlank = c :: t := by
  rw [List.dropWhile_append_of_pos hb, List.dropWhile_cons_of_neg (Bool.eq_false_iff.mp hc)]

private theorem Stops.inner {l : Level} {rest : List Char} (h : Stops l rest) :
    Stops l.inner rest := by
  refine ⟨h.1, fun hl => ?_⟩
  cases l <;> cases hl

/-- What may follow a phrase may follow its last operand, which is read up to there. -/
private theorem Stops.exists_runOn {l : Level} (hl : l ≠ .factor) {rest : List Char}
    (h : Stops l rest) (y : Float) :
    ∃ rest', l.inner.runOn y rest = some (y, rest') ∧ ∀ x, l.runOn x rest' = l.runOn x rest := by
  cases l with
  | factor => exact absurd rfl hl
  | product => exact ⟨rest, rfl, fun x => rfl⟩
  | sum =>
    exact ⟨rest.dropWhile isAsciiBlank, runOn_stop (by decide) fun o ho => h.2 rfl o ho,
      fun x => runOn_dropWhile hl x rest⟩

private theorem stops_append {l : Level} {b : List Char} (hb : Blanks b) {c : Char}
    (hblank : isAsciiBlank c = false) (hnumber : isNumberChar c = false)
    (hsign : l = .sum → ∀ o : Operator, o.level = .product → c ≠ o.sign) (t : List Char) :
    Stops l (b ++ c :: t) := by
  constructor
  · intro d u he
    cases b with
    | nil =>
      obtain ⟨rfl, _⟩ := List.cons.inj he
      exact hnumber
    | cons d' b =>
      obtain ⟨rfl, _⟩ := List.cons.inj he
      exact isNumberChar_eq_false_of_isAsciiBlank (hb _ List.mem_cons_self)
  · intro hl o ho u he
    rw [dropWhile_append hb hblank] at he
    exact hsign hl o ho (List.cons.inj he).1

/-- An operator may follow its first operand. -/
private theorem stops_operator {b : List Char} (hb : Blanks b) (o : Operator) (t : List Char) :
    Stops o.level (b ++ o.sign :: t) := by
  refine stops_append hb ?_ ?_ ?_ t
  · cases o <;> decide
  · cases o <;> decide
  · intro hl o' ho'
    cases o <;> cases hl <;> cases o' <;> cases ho' <;> decide

/-- A closing parenthesis may follow a sum. -/
private theorem stops_closing {b : List Char} (hb : Blanks b) (t : List Char) :
    Stops .sum (b ++ ')' :: t) := by
  refine stops_append hb (by decide) (by decide) ?_ t
  intro _ o _
  cases o <;> decide

private theorem number?_append {s rest : List Char} (hs : IsNumeral s)
    (hrest : ∀ c t, rest = c :: t → isNumberChar c = false) :
    number? (s ++ rest) = some (Expression.value (.numeral s), rest) := by
  obtain ⟨x, hx⟩ := Option.isSome_iff_exists.mp ((isSome_readFloat?_iff hs.1).mpr hs)
  have hstop : rest.takeWhile isNumberChar = [] ∧ rest.dropWhile isNumberChar = rest := by
    cases rest with
    | nil => exact ⟨rfl, rfl⟩
    | cons c t =>
      have hc := Bool.eq_false_iff.mp (hrest c t rfl)
      exact ⟨List.takeWhile_cons_of_neg hc, List.dropWhile_cons_of_neg hc⟩
  rw [number?, List.takeWhile_append_of_pos hs.1, List.dropWhile_append_of_pos hs.1, hstop.1,
    hstop.2, List.append_nil, hx, Expression.value, hx]
  rfl

/-- A numeral is read up to its end. -/
private theorem run_numeral {b s rest : List Char} (hb : Blanks b) (hs : IsNumeral s)
    (hrest : ∀ c t, rest = c :: t → isNumberChar c = false) :
    Level.run .factor (b ++ s ++ rest) = some (Expression.value (.numeral s), rest) := by
  obtain ⟨c, t, rfl⟩ : ∃ c t, s = c :: t := by
    obtain ⟨c, hc, _⟩ := hs.2.1
    exact List.exists_cons_of_ne_nil (List.ne_nil_of_mem hc)
  have hc : isNumberChar c = true := hs.1 c List.mem_cons_self
  have hblank : isAsciiBlank c = false := by
    apply Bool.eq_false_iff.mpr
    intro hblank
    rw [isNumberChar_eq_false_of_isAsciiBlank hblank] at hc
    cases hc
  have hdrop : (b ++ c :: t ++ rest).dropWhile isAsciiBlank = c :: t ++ rest := by
    rw [List.append_assoc]
    exact dropWhile_append hb hblank _
  have hsign {d : Char} (hd : isNumberChar d = false) (u : List Char) :
      (b ++ c :: t ++ rest).dropWhile isAsciiBlank ≠ d :: u := by
    intro he
    rw [hdrop] at he
    rw [(List.cons.inj he).1, hd] at hc
    cases hc
  rw [run_number (hsign (by decide)) (hsign (by decide)) (hsign (by decide)), hdrop,
    number?_append hs hrest]

/-- A phrase is read up to its end, where reading goes on with its value. -/
theorem run_append {l : Level} {e : Expression} {t : List Char} (h : Derives l e t)
    (hzero : e.NoZeroDivisor) {rest : List Char} (hrest : Stops l rest) :
    l.run (t ++ rest) = l.runOn e.value rest := by
  induction h generalizing rest with
  | numeral hb hs => exact run_numeral hb hs hrest.1
  | @negative b t e hb _ ih =>
    have hdrop : (b ++ '-' :: t ++ rest).dropWhile isAsciiBlank = '-' :: (t ++ rest) := by
      rw [List.append_assoc]
      exact dropWhile_append hb (by decide) _
    rw [run_minus hdrop, ih hzero hrest]
    rfl
  | @positive b t e hb _ ih =>
    have hdrop : (b ++ '+' :: t ++ rest).dropWhile isAsciiBlank = '+' :: (t ++ rest) := by
      rw [List.append_assoc]
      exact dropWhile_append hb (by decide) _
    rw [run_plus hdrop, ih hzero hrest]
  | @group b b' t e hb _ hb' ih =>
    have hdrop : (b ++ '(' :: (t ++ (b' ++ [')'])) ++ rest).dropWhile isAsciiBlank =
        '(' :: (t ++ (b' ++ ')' :: rest)) := by
      simp only [List.append_assoc, List.cons_append, List.nil_append]
      exact dropWhile_append hb (by decide) _
    have hclosing : (b' ++ ')' :: rest).dropWhile isAsciiBlank = ')' :: rest :=
      dropWhile_append hb' (by decide) _
    have hon : Level.runOn .sum e.value (b' ++ ')' :: rest) = some (e.value, ')' :: rest) := by
      rw [runOn_stop (by decide), hclosing]
      intro o _ u he
      rw [hclosing] at he
      cases o <;> cases he
    rw [run_group hdrop, ih hzero (stops_closing hb' rest), hon]
    rfl
  | @single l t e _ ih =>
    by_cases hl : l = .factor
    · subst hl
      exact ih hzero hrest
    · obtain ⟨rest', hon, hsame⟩ := hrest.exists_runOn hl e.value
      rw [run_eq hl, ih hzero hrest.inner, hon]
      exact hsame e.value
  | @binary o s b t e e' _ hb _ ih ih' =>
    obtain ⟨hzeroe, hzeroe', hdivided⟩ := hzero
    have hdrop : (b ++ o.sign :: (t ++ rest)).dropWhile isAsciiBlank = o.sign :: (t ++ rest) :=
      dropWhile_append hb (by cases o <;> decide) _
    have ho : o.level ≠ .factor := by cases o <;> decide
    obtain ⟨rest', hon, hsame⟩ := hrest.exists_runOn ho e'.value
    have htext : s ++ (b ++ o.sign :: t) ++ rest = s ++ (b ++ o.sign :: (t ++ rest)) := by
      simp only [List.append_assoc, List.cons_append]
    rw [htext, ih hzeroe (stops_operator hb o _), runOn_operator hdrop, ih' hzeroe' hrest.inner,
      hon, Option.bind_some, if_neg]
    · exact hsame _
    · rintro ⟨ho, hr⟩
      rw [hdivided ho] at hr
      cases hr

/-! ## Evaluation -/

/-- With the fuel that evaluation has, more of it changes nothing. -/
theorem sum?_of_le {fuel : Nat} {s : List Char} (h : 5 * s.length + 5 ≤ fuel) :
    sum? fuel s = Level.run .sum s :=
  read?_of_enough (l := .sum) (by simp only [Level.enough, Level.rank]; omega)

/-- A text that is derived is read to its end. -/
theorem run_of_derives {e : Expression} {t : List Char} (h : Derives .sum e t)
    (hzero : e.NoZeroDivisor) : Level.run .sum t = some (e.value, []) := by
  have hstops : Stops .sum [] := ⟨nofun, fun _ o _ t => by simp⟩
  have hrun := run_append h hzero hstops
  rw [List.append_nil] at hrun
  rw [hrun, runOn_stop (by decide) fun o _ t => by simp]
  rfl

/-- What is read of a trimmed text with nothing but blanks behind it is the text. -/
private theorem derives_of_run {text rest : List Char} {x : Float}
    (h : Level.run .sum (trim text) = some (x, rest)) (hrest : rest.dropWhile isAsciiBlank = []) :
    ∃ e, Derives .sum e (trim text) ∧ e.NoZeroDivisor ∧ e.value = x := by
  obtain ⟨e, t, b, hs, he, hb, hzero, hx⟩ := (spelled_of_read? h).dropWhile
  rw [hrest, List.append_nil] at hs
  have hnil : b = [] :=
    eq_nil_of_trim_eq_append hs fun c hc => isBlank_of_isAsciiBlank (hb c hc)
  rw [hnil, List.append_nil] at hs
  exact ⟨e, hs ▸ he, hzero, hx⟩

/-- Exactly the texts of at most a hundred bytes that the grammar derives without a division by
zero are evaluated, each to its value where that is finite. The value of a numeral is the double
nearest to the number written. And reading ends, as more fuel changes nothing. -/
theorem evaluate?_eq_some_iff_derives (text : List Char) :
    (∀ v, evaluate? text = some v ↔
      trim text ≠ [] ∧ byteLength (trim text) ≤ 100 ∧
        ∃ e, Derives .sum e (trim text) ∧ e.NoZeroDivisor ∧ e.value = v ∧
          Number.isFinite v = true) ∧
    (∀ s, IsNumeral s → ∃ v, Number.Unsigned (Expression.value (.numeral s)) v ∧
      (s.length ≤ 10 ^ 8 → v = Number.nearest (written s))) ∧
    ∀ fuel, 5 * (trim text).length + 5 ≤ fuel →
      sum? fuel (trim text) = sum? (5 * (trim text).length + 5) (trim text) := by
  refine ⟨fun v => ?_, fun s => exists_unsigned_numeral,
    fun fuel h => (sum?_of_le h).trans (sum?_of_le (Nat.le_refl _)).symm⟩
  rw [evaluate?, sum?_of_le (Nat.le_refl _)]
  constructor
  · intro h
    split at h
    · cases h
    next hguard =>
      simp only [Bool.or_eq_true, List.isEmpty_iff, decide_eq_true_eq, not_or,
        Nat.not_lt] at hguard
      obtain ⟨⟨⟨hne, hlength⟩, _⟩, _⟩ := hguard
      cases hr : Level.run .sum (trim text) with
      | none =>
        rw [hr] at h
        cases h
      | some r =>
        obtain ⟨x, rest⟩ := r
        simp only [hr] at h
        split at h
        next hend =>
          obtain rfl := Option.some.inj h
          obtain ⟨hrest, hfinite⟩ := Bool.and_eq_true_iff.mp hend
          obtain ⟨e, he, hzero, hx⟩ := derives_of_run hr (List.isEmpty_iff.mp hrest)
          exact ⟨hne, hlength, e, he, hzero, hx, hfinite⟩
        next => cases h
  · rintro ⟨hne, hlength, e, he, hzero, rfl, hfinite⟩
    have hchars := he.all_isExpressionChar
    have hbalanced : balancedFrom 0 (trim text) = true := by
      have h := he.balancedFrom_append 0 []
      rwa [List.append_nil] at h
    rw [run_of_derives he hzero, if_neg]
    · simp only [List.dropWhile_nil, List.isEmpty_nil, hfinite, Bool.and_self, if_true]
    · simp only [hchars, hbalanced, Bool.not_true, Bool.or_false, Bool.or_eq_true,
        List.isEmpty_iff, decide_eq_true_eq, not_or, Nat.not_lt]
      exact ⟨hne, hlength⟩

end Adjudicator.Value
