import Adjudicator.Mutation.Candidates
import Adjudicator.Proofs.Mutation.Masked
import Adjudicator.Proofs.Pattern.Groups
import Adjudicator.Proofs.Value.Decimal

/-!
# Numbers of masked lines

The pattern of numbers takes digits with a fraction where it can, but it ends at the border of a
word, so it leaves a fraction that runs into a word. Main statement: what is found is a whole
literal unless it is followed by a second point or by such a fraction.
-/

namespace Adjudicator.Mutation

open Text Pattern Number Value Cursor

/-- Behind a point stand digits that run into a word. -/
def RunsIntoWord (s : List Char) : Prop :=
  ∃ f c rest, s = '.' :: (f ++ c :: rest) ∧ f ≠ [] ∧ (∀ x ∈ f, isDigit x = true) ∧
    isDigit c = false ∧ isWord c = true

variable {c d : Cursor} {s whole tail f rest : List Char} {m : Match}

/-! ## Ends of numbers -/

/-- The pattern behind its start. -/
private def fromDigits : Pattern :=
  group 1 decimal ++ boundary

private theorem tryAt_numberPattern (c : Cursor) :
    numberPattern.tryAt c = (freshStart ++ fromDigits).tryAt c :=
  rfl

private theorem exists_of_mem_offers_decimal (h : d ∈ decimal.offers c) :
    ∃ whole tail rest, whole ≠ [] ∧ (∀ x ∈ whole, isDigit x = true) ∧ IsFraction tail ∧
      c.rest = whole ++ tail ++ rest ∧ d = c.past (whole ++ tail) rest := by
  obtain ⟨e, he, hfraction⟩ := mem_offers_append.mp h
  obtain ⟨whole, t, hne, hc, hwhole, rfl⟩ := mem_offers_plus_one.mp he
  rcases mem_offers_opt.mp hfraction with hfraction | rfl
  · obtain ⟨_, hpoint, hdigits⟩ := mem_offers_append.mp hfraction
    obtain ⟨p, t', ht, hp, rfl⟩ := mem_offers_one.mp hpoint
    obtain rfl : p = '.' := beq_iff_eq.mp hp
    obtain rfl : t = '.' :: t' := ht
    obtain ⟨f, rest, hfne, ht', hf, rfl⟩ := mem_offers_plus_one.mp hdigits
    obtain rfl : t' = f ++ rest := ht'
    refine ⟨whole, '.' :: f, rest, hne, hwhole, .inr ⟨f, hfne, hf, rfl⟩, ?_, ?_⟩
    · rw [hc, List.append_assoc]
      rfl
    · rw [past_past, past_past]
      rfl
  · exact ⟨whole, [], t, hne, hwhole, .inl rfl, by rw [hc, List.append_nil],
      by rw [List.append_nil]⟩

private theorem exists_word_getLast (hne : whole ≠ []) (hwhole : ∀ x ∈ whole, isDigit x = true)
    (htail : IsFraction tail) : ∃ x ∈ (whole ++ tail).getLast?, isWord x = true := by
  have hlast {w : List Char} (hw : w ≠ []) (hdigits : ∀ x ∈ w, isDigit x = true) :
      ∃ x ∈ w.getLast?, isWord x = true :=
    ⟨_, List.getLast?_eq_some_getLast hw, isWord_of_isDigit (hdigits _ (List.getLast_mem hw))⟩
  rcases htail with rfl | ⟨f, hfne, hf, rfl⟩
  · rw [List.append_nil]
    exact hlast hne hwhole
  · obtain ⟨x, hx, hword⟩ := hlast hfne hf
    refine ⟨x, ?_, hword⟩
    rw [List.getLast?_append_of_ne_nil _ (List.cons_ne_nil _ _), List.getLast?_cons_of_ne_nil hfne]
    exact hx

/-- Behind a number is an edge exactly when no word goes on there. -/
private theorem boundary_iff (hne : whole ≠ []) (hwhole : ∀ x ∈ whole, isDigit x = true)
    (htail : IsFraction tail) :
    ((c.past (whole ++ tail) rest).prev.any isWord !=
      (c.past (whole ++ tail) rest).rest.head?.any isWord) = true ↔
        ∀ x ∈ rest.head?, isWord x = false := by
  obtain ⟨x, hx, hword⟩ := exists_word_getLast hne hwhole htail
  have hprev : (c.past (whole ++ tail) rest).prev.any isWord = true := by
    rw [past, Option.mem_def.mp hx, Option.some_or, Option.any_some, hword]
  have hrest : (c.past (whole ++ tail) rest).rest = rest := rfl
  rw [hprev, hrest]
  cases rest with
  | nil =>
    refine iff_of_true rfl ?_
    rintro _ ⟨⟩
  | cons y rest => simp

/-- A fraction that does not run into a word is taken. -/
private theorem tryAt_fromDigits (hc : c.rest = whole ++ '.' :: (f ++ rest)) (hne : whole ≠ [])
    (hwhole : ∀ x ∈ whole, isDigit x = true) (hfne : f ≠ []) (hf : ∀ x ∈ f, isDigit x = true)
    (hrest : ∀ x ∈ rest.head?, isDigit x = false ∧ isWord x = false) :
    fromDigits.tryAt c = some ((c.past (whole ++ '.' :: f) rest).mark 1 c.index) := by
  have hdigits : digit.plus.tryAt c = some (c.past whole ('.' :: (f ++ rest))) := by
    refine tryAt_plus_one hne hc hwhole ?_
    rintro _ ⟨⟩
    decide
  have hpoint : (Pattern.text ".").tryAt (c.past whole ('.' :: (f ++ rest))) =
      some (c.past (whole ++ ['.']) (f ++ rest)) :=
    (tryAt_one rfl rfl).trans (congrArg some (past_past c whole ['.'] _ _))
  have hplaces : digit.plus.tryAt (c.past (whole ++ ['.']) (f ++ rest)) =
      some (c.past (whole ++ '.' :: f) rest) := by
    have h := tryAt_plus_one (c := c.past (whole ++ ['.']) (f ++ rest)) hfne rfl hf
      fun x hx => (hrest x hx).1
    rwa [past_past, List.append_assoc] at h
  have hdecimal := tryAt_append hdigits (tryAt_opt_some (tryAt_append hpoint hplaces))
  have hedge := (boundary_iff (c := c) hne hwhole (.inr ⟨f, hfne, hf, rfl⟩)).mpr fun x hx =>
    (hrest x hx).2
  exact tryAt_append (tryAt_group 1 hdecimal) (tryAt_look hedge)

/-- A digit begins a longest run of digits. -/
private theorem exists_digits {x : Char} (hx : isDigit x = true) (w : List Char) :
    ∃ f r, x :: w = f ++ r ∧ f ≠ [] ∧ (∀ y ∈ f, isDigit y = true) ∧
      ∀ y ∈ r.head?, isDigit y = false := by
  refine ⟨(x :: w).takeWhile isDigit, (x :: w).dropWhile isDigit,
    List.takeWhile_append_dropWhile.symm, ?_, List.all_eq_true.mp List.all_takeWhile, ?_⟩
  · rw [List.takeWhile_cons_of_pos hx]
    exact List.cons_ne_nil _ _
  · intro y hy
    have hhead := List.head?_dropWhile_not isDigit (x :: w)
    rw [Option.mem_def.mp hy] at hhead
    exact hhead

/-- Digits in front of a point and a digit are taken alone only when a fraction there runs into a
word. -/
private theorem runsIntoWord_of_tryAt {x : Char} {w : List Char} (hx : isDigit x = true)
    (hc : c.rest = whole ++ '.' :: x :: w) (hne : whole ≠ [])
    (hwhole : ∀ y ∈ whole, isDigit y = true) (h : fromDigits.tryAt c = some d)
    (hd : d.index = c.index + whole.length) : RunsIntoWord ('.' :: x :: w) := by
  obtain ⟨f, r, hrun, hfne, hf, hstop⟩ := exists_digits hx w
  by_contra hnot
  have hword : ∀ y ∈ r.head?, isWord y = false := by
    intro y hy
    by_contra hy'
    obtain ⟨rest, rfl⟩ := List.head?_eq_some_iff.mp hy
    exact hnot ⟨f, y, rest, congrArg ('.' :: ·) hrun, hfne, hf, hstop y rfl,
      Bool.not_eq_false _ ▸ hy'⟩
  have hlonger := tryAt_fromDigits (hrun ▸ hc) hne hwhole hfne hf fun y hy =>
    ⟨hstop y hy, hword y hy⟩
  have hsame := congrArg Cursor.index (Option.some.inj (h.symm.trans hlonger))
  rw [hd] at hsame
  simp only [mark, past, List.length_append, List.length_cons] at hsame
  omega

/-! ## Numbers -/

/-- A number begins at the start of a text or behind a character that is neither of a word nor a
point. -/
private theorem exists_of_mem_offers_freshStart {front back : List Char}
    (h : d ∈ freshStart.offers (between front back)) :
    ∃ u t, front ++ back = u ++ t ∧ d = between u t ∧
      ∀ x ∈ u.getLast?, isWord x = false ∧ x ≠ '.' := by
  rcases mem_offers_freshStart.mp h with ⟨hfront, rfl⟩ | ⟨y, t, hback, hy, rfl⟩
  · obtain rfl : front = [] := List.getLast?_eq_none_iff.mp hfront
    exact ⟨[], back, rfl, rfl, nofun⟩
  · obtain rfl : back = [y] ++ t := hback
    refine ⟨front ++ [y], t, by rw [List.append_assoc], past_between front [y] t, ?_⟩
    rw [Bool.or_eq_false_iff, beq_eq_false_iff_ne] at hy
    rw [List.getLast?_concat]
    rintro _ ⟨⟩
    exact hy

/-- A number that is found begins and ends at the border of a word and behind no point. Unless it
has a fraction itself, a fraction behind it runs into a word. -/
theorem exists_number (h : m ∈ numberPattern.findAll s) :
    ∃ u whole tail v, s = u ++ ((whole ++ tail) ++ v) ∧
      m.span? 1 = some (u.length, u.length + (whole ++ tail).length) ∧
      m.group 1 = whole ++ tail ∧ whole ≠ [] ∧ (∀ x ∈ whole, isDigit x = true) ∧
      IsFraction tail ∧ (∀ x ∈ u.getLast?, isWord x = false ∧ x ≠ '.') ∧
      (∀ x ∈ v.head?, isWord x = false) ∧
      (tail = [] → ∀ x, isDigit x = true → ['.', x] <+: v → RunsIntoWord v) := by
  obtain ⟨front, back, d, rfl, hd, rfl⟩ := fits_of_mem_findAll h
  rw [tryAt_numberPattern] at hd
  obtain ⟨_, hstart, hd⟩ := exists_of_tryAt_append hd
  obtain ⟨u, t, hsplit, rfl, hfresh⟩ := exists_of_mem_offers_freshStart hstart
  obtain ⟨_, hgroup, hedge⟩ := mem_offers_append.mp (tryAt_mem_offers hd)
  obtain ⟨_, hdecimal, rfl⟩ := mem_offers_group.mp hgroup
  obtain ⟨whole, tail, v, hne, hwhole, htail, ht, rfl⟩ := exists_of_mem_offers_decimal hdecimal
  obtain ⟨hborder, rfl⟩ := mem_offers_look.mp hedge
  obtain rfl : t = whole ++ tail ++ v := ht
  have hspan {start stop : Nat} : Match.span? ⟨front ++ back, start, stop,
      [(1, u.length, u.length + (whole ++ tail).length)]⟩ 1 =
        some (u.length, u.length + (whole ++ tail).length) := rfl
  have hend := (boundary_iff hne hwhole htail).mp hborder
  refine ⟨u, whole, tail, v, hsplit, hspan, group_of_span? hsplit hspan, hne, hwhole, htail,
    hfresh, hend, ?_⟩
  rintro rfl x hx ⟨w, rfl⟩
  rw [List.append_nil] at hd
  exact runsIntoWord_of_tryAt hx rfl hne hwhole hd rfl

/-! ## Literals of lines -/

/-- A literal stands in a line, at the borders of words and behind no point. A point and a digit
follow only when the literal has a fraction or the digits run into a word. -/
structure StandsIn (line before : List Char) (x : DecimalLiteral) (after : List Char) :
    Prop where
  /-- The line has the literal between these parts. -/
  line_eq : line = before ++ x.text ++ after
  /-- No word and no point is in front. -/
  before_last : ∀ c ∈ before.getLast?, isWord c = false ∧ c ≠ '.'
  /-- No word goes on behind it. -/
  after_head : ∀ c ∈ after.head?, isWord c = false
  /-- No fraction behind it is left out, unless it runs into a word. -/
  after_point : ∀ c, isDigit c = true → ['.', c] <+: after → x.fraction ≠ none ∨ RunsIntoWord after

private theorem isOrdinary_of_isWord {c : Char} (h : isWord c = true) : IsOrdinary c := by
  have hnone : ∀ c ∈ '/' :: ' ' :: quotes, isWord c = false :=
    List.all_iff_forall_prop.mp (by decide)
  have hmem : c ∉ '/' :: ' ' :: quotes := by
    intro hc
    rw [hnone c hc] at h
    cases h
  rw [List.mem_cons, List.mem_cons, not_or, not_or] at hmem
  exact ⟨hmem.2.2, hmem.1, hmem.2.1⟩

private theorem isOrdinary_point : IsOrdinary '.' :=
  ⟨by decide, by decide, by decide⟩

private theorem isOrdinary_of_mem_text {x : DecimalLiteral} {c : Char} (hc : c ∈ x.text) :
    IsOrdinary c := by
  rcases isDigitOrPoint_of_isNumberChar (x.isNumberChar_of_mem hc) with hdigit | rfl
  · exact isOrdinary_of_isWord (isWord_of_isDigit hdigit)
  · exact isOrdinary_point

/-- A number that is found in a masked line and can be read is a literal of the line. -/
theorem exists_standsIn {line : List Char} (h : m ∈ numberPattern.findAll (mask line))
    (hvalue : (readFloat? (m.group 1)).isSome = true) :
    ∃ before x after start stop, m.span? 1 = some (start, stop) ∧ m.group 1 = x.text ∧
      Unmasked line start stop before x.text after ∧ StandsIn line before x after := by
  obtain ⟨u, whole, tail, v, hmask, hspan, hgroup, hne, hwhole, htail, hbefore, hafter, hpoint⟩ :=
    exists_number h
  rw [hgroup] at hvalue
  obtain ⟨x, hx, hfraction⟩ := DecimalLiteral.exists_text_eq hne hwhole htail hvalue
  rw [← hx] at hmask hspan hgroup
  obtain ⟨p, q, hunmasked, hlast, hbegins⟩ :=
    exists_unmasked_between hmask x.text_ne_nil fun c hc => isOrdinary_of_mem_text hc
  refine ⟨p, x, q, _, _, hspan, hgroup, hunmasked, hunmasked.line_eq, ?_, ?_, ?_⟩
  · rw [hlast]
    exact hbefore
  · intro c hc
    by_contra hword
    rw [Bool.not_eq_false] at hword
    obtain ⟨rest, rfl⟩ := List.head?_eq_some_iff.mp hc
    have hshown : [c] <+: v :=
      (hbegins [c] (by simpa using isOrdinary_of_isWord hword)).mp ⟨rest, rfl⟩
    obtain ⟨rest', rfl⟩ := hshown
    rw [hafter c rfl] at hword
    cases hword
  · intro c hc hpointed
    by_cases hnone : x.fraction = none
    · have hordinary : ∀ y ∈ ['.', c], IsOrdinary y := by
        simpa using ⟨isOrdinary_point, isOrdinary_of_isWord (isWord_of_isDigit hc)⟩
      obtain ⟨f, d, rest, rfl, hfne, hf, hd, hword⟩ :=
        hpoint (hfraction.mp hnone) c hc ((hbegins _ hordinary).mp hpointed)
      have hordinary' : ∀ y ∈ '.' :: (f ++ [d]), IsOrdinary y := by
        intro y hy
        rw [List.mem_cons, List.mem_append, List.mem_singleton] at hy
        rcases hy with rfl | hy | rfl
        · exact isOrdinary_point
        · exact isOrdinary_of_isWord (isWord_of_isDigit (hf y hy))
        · exact isOrdinary_of_isWord hword
      obtain ⟨rest', hq⟩ := (hbegins _ hordinary').mpr ⟨rest, by simp⟩
      refine .inr ⟨f, d, rest', ?_, hfne, hf, hd, hword⟩
      rw [← hq]
      simp
    · exact .inl hnone

end Adjudicator.Mutation
