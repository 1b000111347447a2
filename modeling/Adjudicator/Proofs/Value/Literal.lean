import Adjudicator.Proofs.Value.Decimal

/-!
# Literals of lines

Main statement: a line of code shows the literal that it multiplies by when the literal has no
suffix. With a suffix it shows what stands before the point, or nothing when there is no point.
-/

namespace Adjudicator

open Text

/-! ## Stripping -/

namespace Code

/-- The characters that can begin a literal or a comment. -/
def quotes : List Char :=
  ['/', '"', backtick, '\'']

private theorem stripFrom_eq_self {s : List Char} (h : ∀ c ∈ s, c ∉ quotes) (prev : Char) :
    stripFrom none prev s = s := by
  induction s generalizing prev with
  | nil => rfl
  | cons c s ih =>
    obtain ⟨hc, hs⟩ := List.forall_mem_cons.mp h
    simp only [quotes, List.mem_cons, List.not_mem_nil, or_false, not_or] at hc
    obtain ⟨hslash, hdouble, hback, hsingle⟩ := hc
    have hopened : opened? prev c s = none := by
      simp only [opened?, hdouble, hback, hsingle, or_self, false_and, if_false]
    simp only [stripFrom, hslash, false_and, if_false, hopened, ih hs]

/-- Nothing is stripped of a line without quotes and slashes. -/
theorem stripLiterals_eq_self {s : List Char} (h : ∀ c ∈ s, c ∉ quotes) : stripLiterals s = s :=
  stripFrom_eq_self h _

end Code

namespace Value

open Number Pattern

/-! ## Where literals start -/

/-- Whether a character can be the first one of a literal. -/
def startsNumber (c : Char) : Bool :=
  c == '-' || isDigit c

section Start

variable {c d : Cursor} {y : Char} {rest : List Char}

private theorem startsNumber_of_mem_offers_decimal (h : d ∈ decimal.offers c) :
    ∃ y ∈ c.rest.head?, isDigit y = true := by
  obtain ⟨e, he, _⟩ := mem_offers_append.mp h
  obtain ⟨taken, rest, hne, hc, htaken, _⟩ := mem_offers_plus_one.mp he
  obtain ⟨y, taken, rfl⟩ := List.exists_cons_of_ne_nil hne
  exact ⟨y, by rw [hc]; rfl, htaken y List.mem_cons_self⟩

/-- A literal starts with a sign or a digit behind a fresh start. -/
private theorem exists_of_mem_offers_literalPattern (h : d ∈ literalPattern.offers c) :
    ∃ e ∈ freshStart.offers c, ∃ y ∈ e.rest.head?, startsNumber y = true := by
  obtain ⟨_, hfront, _⟩ := mem_offers_append.mp h
  obtain ⟨e, he, hgroup⟩ := mem_offers_append.mp hfront
  obtain ⟨_, hnumber, _⟩ := mem_offers_group.mp hgroup
  obtain ⟨_, hsign, hdecimal⟩ := mem_offers_append.mp hnumber
  refine ⟨e, he, ?_⟩
  rcases mem_offers_opt.mp hsign with hsign | rfl
  · obtain ⟨y, rest, hrest, hy, _⟩ := mem_offers_one.mp hsign
    have hminus : (y == '-') = true := hy
    refine ⟨y, by rw [hrest]; rfl, ?_⟩
    rw [startsNumber, hminus, Bool.true_or]
  · obtain ⟨y, hy, hdigit⟩ := startsNumber_of_mem_offers_decimal hdecimal
    refine ⟨y, hy, ?_⟩
    rw [startsNumber, hdigit, Bool.or_true]

/-- No literal starts at or directly behind a character that starts no number. -/
private theorem tryAt_literalPattern_of_take (h : ∀ y ∈ c.rest.take 2, startsNumber y = false) :
    literalPattern.tryAt c = none := by
  rw [tryAt_eq_none_iff]
  intro d hd
  obtain ⟨e, he, y, hy, hstarts⟩ := exists_of_mem_offers_literalPattern hd
  have hmem : y ∈ c.rest.take 2 := by
    rcases mem_offers_freshStart.mp he with ⟨_, rfl⟩ | ⟨z, rest, hc, _, rfl⟩
    · obtain ⟨rest, hc⟩ := List.head?_eq_some_iff.mp hy
      rw [hc]
      exact List.mem_cons_self
    · obtain ⟨rest', hrest⟩ := List.head?_eq_some_iff.mp (show rest.head? = some y from hy)
      rw [hc, hrest]
      exact List.mem_cons_of_mem _ List.mem_cons_self
  rw [h y hmem] at hstarts
  cases hstarts

/-- No literal starts inside a word or behind a point. -/
private theorem tryAt_literalPattern_of_word (hprev : c.prev ≠ none)
    (h : ∀ y ∈ c.rest.head?, (isWord y || y == '.') = true) : literalPattern.tryAt c = none := by
  rw [tryAt_eq_none_iff]
  intro d hd
  obtain ⟨e, he, _⟩ := exists_of_mem_offers_literalPattern hd
  rcases mem_offers_freshStart.mp he with ⟨hnone, _⟩ | ⟨y, rest, hc, hy, _⟩
  · exact hprev hnone
  · rw [h y (by rw [hc]; rfl)] at hy
    cases hy

end Start

/-! ## Where literals end -/

/-- Whether a place is between a word character and none. -/
def atEdge (c : Cursor) : Bool :=
  c.prev.any isWord != c.rest.head?.any isWord

section Ends

variable {x : DecimalLiteral} {c d : Cursor} {y : Char} {r rest : List Char}

/-- Digits end inside a run of digits or with it. -/
private theorem exists_append_of_digits {v : Digits} {w t rest : List Char}
    (h : v.text ++ t = w ++ rest) (hw : ∀ z ∈ w, isDigit z = true)
    (ht : ∀ z ∈ t.head?, isDigit z = false) : ∃ a, v.text = w ++ a ∧ rest = a ++ t := by
  rcases List.append_eq_append_iff.mp h with ⟨a, rfl, rfl⟩ | ⟨a, hv, hrest⟩
  · cases a with
    | nil => exact ⟨[], by rw [List.append_nil, List.append_nil], rfl⟩
    | cons z a =>
      have hdigit := hw z (List.mem_append_right _ List.mem_cons_self)
      rw [ht z rfl] at hdigit
      cases hdigit
  · exact ⟨a, hv, hrest⟩

/-- No edge is between digits and a word character. -/
private theorem atEdge_past_of_word {w : List Char} (hne : w ≠ [])
    (hw : ∀ z ∈ w, isWord z = true) (hrest : ∃ z ∈ rest.head?, isWord z = true) :
    atEdge (c.past w rest) = false := by
  obtain ⟨z, hz, hword⟩ := hrest
  have hlast := List.getLast?_eq_some_getLast hne
  rw [atEdge, Cursor.past, hlast, Option.mem_def.mp hz, Option.some_or, Option.any_some,
    Option.any_some, hword, hw _ (List.getLast_mem hne)]
  rfl

private theorem isDigit_eq_false_of_word (hr : ∃ z ∈ r.head?, isWord z = true ∧ isDigit z = false) :
    ∀ z ∈ r.head?, isDigit z = false := by
  obtain ⟨z, hz, _, hdigit⟩ := hr
  intro y hy
  obtain rfl := Option.mem_unique hz hy
  exact hdigit

/-- Digits in front of a word character have no edge inside or behind them. -/
private theorem atEdge_past_of_digits {v : Digits} {w : List Char} (hne : w ≠ [])
    (h : v.text ++ r = w ++ rest) (hw : ∀ z ∈ w, isDigit z = true)
    (hr : ∃ z ∈ r.head?, isWord z = true ∧ isDigit z = false) :
    atEdge (c.past w rest) = false := by
  obtain ⟨a, hv, rfl⟩ := exists_append_of_digits h hw (isDigit_eq_false_of_word hr)
  have hword : ∀ z ∈ w ++ a, isWord z = true := fun z hz => v.isWord_of_mem (hv ▸ hz)
  apply atEdge_past_of_word hne fun z hz => hword z (List.mem_append_left a hz)
  cases a with
  | nil =>
    obtain ⟨z, hz, hword, _⟩ := hr
    exact ⟨z, hz, hword⟩
  | cons z a => exact ⟨z, rfl, hword z (List.mem_append_right w List.mem_cons_self)⟩

private theorem split_at_point {v : Digits} {w : List Char} (h : v.text ++ r = w ++ '.' :: rest)
    (hw : ∀ z ∈ w, isDigit z = true) (hr : ∀ z ∈ r.head?, isDigit z = false) :
    r = '.' :: rest := by
  obtain ⟨a, hv, ha⟩ := exists_append_of_digits h hw hr
  cases a with
  | nil => exact ha.symm
  | cons z a =>
    obtain rfl : '.' = z := (List.cons.inj ha).1
    have hdigit := v.isDigit_of_mem (hv ▸ List.mem_append_right w List.mem_cons_self)
    exact absurd hdigit (by decide)

/-- In front of a word character, the only edge of a decimal is at its point. -/
private theorem eq_past_of_atEdge (hc : c.rest = x.text ++ r)
    (hr : ∃ z ∈ r.head?, isWord z = true ∧ isDigit z = false) (hd : d ∈ decimal.offers c)
    (hedge : atEdge d = true) :
    x.fraction ≠ none ∧ d = c.past x.whole.text (x.tail ++ r) := by
  have hstop := isDigit_eq_false_of_word hr
  have htail := DecimalLiteral.isDigit_eq_false_of_mem_head? (x := x) hstop
  obtain ⟨_, he, hfraction⟩ := mem_offers_append.mp hd
  obtain ⟨w, t, hne, hsplit, hw, rfl⟩ := mem_offers_plus_one.mp he
  rw [hc, DecimalLiteral.text, List.append_assoc] at hsplit
  rcases mem_offers_opt.mp hfraction with hfraction | rfl
  · -- Digits of the fraction are followed by another digit or by the word character.
    exfalso
    obtain ⟨_, hpoint, hdigits⟩ := mem_offers_append.mp hfraction
    obtain ⟨p, t', ht, hp, rfl⟩ := mem_offers_one.mp hpoint
    obtain rfl : p = '.' := beq_iff_eq.mp hp
    obtain rfl : t = '.' :: t' := ht
    have hafter := split_at_point hsplit hw htail
    rw [DecimalLiteral.tail] at hafter
    cases hf : x.fraction with
    | none =>
      rw [hf, Option.elim_none, List.nil_append] at hafter
      obtain ⟨z, hz, hword, _⟩ := hr
      rw [hafter] at hz
      obtain rfl : '.' = z := Option.some.inj hz
      exact absurd hword (by decide)
    | some f =>
      rw [hf, Option.elim_some, List.cons_append] at hafter
      obtain ⟨w', t'', hne', hsplit', hw', rfl⟩ := mem_offers_plus_one.mp hdigits
      rw [atEdge_past_of_digits hne' ((List.cons.inj hafter).2.trans hsplit') hw' hr] at hedge
      cases hedge
  · cases hf : x.fraction with
    | none =>
      rw [DecimalLiteral.tail, hf, Option.elim_none, List.nil_append] at hsplit
      rw [atEdge_past_of_digits hne hsplit hw hr] at hedge
      cases hedge
    | some f =>
      obtain ⟨a, hwhole, rfl⟩ := exists_append_of_digits hsplit hw htail
      have hword : ∀ z ∈ w ++ a, isWord z = true := fun z hz => x.whole.isWord_of_mem (hwhole ▸ hz)
      cases a with
      | nil =>
        rw [hwhole, List.append_nil]
        exact ⟨Option.some_ne_none f, rfl⟩
      | cons z a =>
        rw [atEdge_past_of_word hne (fun z hz => hword z (List.mem_append_left _ hz))
          ⟨z, rfl, hword z (List.mem_append_right w List.mem_cons_self)⟩] at hedge
        cases hedge

private theorem exists_digit_head (x : DecimalLiteral) (r : List Char) :
    ∃ z ∈ (x.text ++ r).head?, isNumberChar z = true := by
  obtain ⟨z, w, hw⟩ := List.exists_cons_of_ne_nil x.whole.nonempty
  refine ⟨z, by rw [DecimalLiteral.text, hw]; rfl, x.isNumberChar_of_mem ?_⟩
  rw [DecimalLiteral.text, hw]
  exact List.mem_cons_self

private theorem minus_not_mem_head? (x : DecimalLiteral) (r : List Char) :
    '-' ∉ (x.text ++ r).head? := by
  intro h
  obtain ⟨z, hz, hnumber⟩ := exists_digit_head x r
  obtain rfl := Option.mem_unique h hz
  exact absurd hnumber (by decide)

/-- A literal ends in a digit. -/
private theorem exists_word_getLast (x : DecimalLiteral) :
    ∃ z ∈ x.text.getLast?, isWord z = true := by
  have hlast (v : Digits) : ∃ z ∈ v.text.getLast?, isWord z = true :=
    ⟨_, List.getLast?_eq_some_getLast v.nonempty, v.isWord_of_mem (List.getLast_mem v.nonempty)⟩
  rw [DecimalLiteral.text, DecimalLiteral.tail]
  cases x.fraction with
  | none =>
    rw [Option.elim_none, List.append_nil]
    exact hlast x.whole
  | some f =>
    obtain ⟨z, hz, hword⟩ := hlast f
    refine ⟨z, ?_, hword⟩
    rw [Option.elim_some, List.getLast?_append, List.getLast?_cons, Option.mem_def.mp hz]
    rfl

end Ends

/-! ## First choices behind a fresh start -/

section Fresh

variable {x : DecimalLiteral} {c d : Cursor} {y : Char} {r rest : List Char}
variable (hprev : c.prev ≠ none) (hy : (isWord y || y == '.') = false)

include hprev hy

/-- Behind a fresh start, a literal is a decimal that ends at the edge of a word. -/
private theorem mem_offers_literalPattern (hc : c.rest = y :: rest) (hrest : '-' ∉ rest.head?) :
    d ∈ literalPattern.offers c ↔
      ∃ e ∈ decimal.offers (c.past [y] rest), atEdge e = true ∧ d = e.mark 1 (c.index + 1) := by
  have hfresh (e : Cursor) : e ∈ freshStart.offers c ↔ e = c.past [y] rest := by
    rw [mem_offers_freshStart, hc]
    constructor
    · rintro (⟨hnone, _⟩ | ⟨_, _, ⟨⟩, _, rfl⟩)
      · exact absurd hnone hprev
      · rfl
    · rintro rfl
      exact .inr ⟨y, rest, rfl, hy, rfl⟩
  have hsign (e : Cursor) : e ∈ (opt (Pattern.text "-")).offers (c.past [y] rest) ↔
      e = c.past [y] rest := by
    rw [mem_offers_opt, or_iff_right_iff_imp]
    intro he
    obtain ⟨z, _, hz, hminus, _⟩ := mem_offers_one.mp he
    obtain rfl : z = '-' := beq_iff_eq.mp hminus
    exact absurd (by rw [show rest = '-' :: _ from hz]; rfl) hrest
  constructor
  · intro h
    obtain ⟨f, hfront, hboundary⟩ := mem_offers_append.mp h
    obtain ⟨e, he, hgroup⟩ := mem_offers_append.mp hfront
    obtain rfl := (hfresh e).mp he
    obtain ⟨g, hnumber, rfl⟩ := mem_offers_group.mp hgroup
    obtain ⟨e, he, hdecimal⟩ := mem_offers_append.mp hnumber
    obtain rfl := (hsign e).mp he
    obtain ⟨hedge, rfl⟩ := mem_offers_look.mp hboundary
    exact ⟨g, hdecimal, hedge, rfl⟩
  · rintro ⟨e, hdecimal, hedge, rfl⟩
    have hnumber := mem_offers_append.mpr ⟨_, (hsign _).mpr rfl, hdecimal⟩
    have hgroup : e.mark 1 (c.index + 1) ∈ (group 1 _).offers (c.past [y] rest) :=
      mem_offers_group.mpr ⟨e, hnumber, rfl⟩
    have hboundary : e.mark 1 (c.index + 1) ∈ boundary.offers (e.mark 1 (c.index + 1)) :=
      mem_offers_look.mpr ⟨hedge, rfl⟩
    exact mem_offers_append.mpr
      ⟨_, mem_offers_append.mpr ⟨_, (hfresh _).mpr rfl, hgroup⟩, hboundary⟩

/-- In front of no word character and no point, a literal is chosen as a whole. -/
private theorem tryAt_literalPattern_plain (hc : c.rest = y :: (x.text ++ r))
    (hr : ∀ z ∈ r.head?, isDigit z = false ∧ z ≠ '.') (hend : r.head?.any isWord = false) :
    literalPattern.tryAt c =
      some (((c.past [y] (x.text ++ r)).past x.text r).mark 1 (c.index + 1)) := by
  have hstart : textStart.tryAt c = none :=
    tryAt_look_none (Option.isNone_eq_false_iff.mpr (Option.isSome_iff_ne_none.mpr hprev))
  have hfresh : freshStart.tryAt c = some (c.past [y] (x.text ++ r)) := by
    rw [freshStart, tryAt_either_right hstart]
    exact tryAt_one hc (by rw [hy]; rfl)
  have hsign : (opt (Pattern.text "-")).tryAt (c.past [y] (x.text ++ r)) =
      some (c.past [y] (x.text ++ r)) := by
    refine tryAt_opt_none (tryAt_one_none fun z hz => ?_)
    rw [beq_eq_false_iff_ne]
    rintro rfl
    exact minus_not_mem_head? x r hz
  have hdecimal := DecimalLiteral.tryAt_decimal (x := x) (c := c.past [y] (x.text ++ r)) rfl
    (fun z hz => (hr z hz).1) fun t ht => absurd rfl (hr '.' (by rw [ht]; rfl)).2
  have hnumber := tryAt_group 1 (tryAt_append hsign hdecimal)
  have hedge : atEdge ((c.past [y] (x.text ++ r)).past x.text r) = true := by
    obtain ⟨z, hz, hword⟩ := exists_word_getLast x
    rw [atEdge, Cursor.past, Option.mem_def.mp hz, Option.some_or, Option.any_some, hword, hend]
    rfl
  exact tryAt_append (tryAt_append hfresh hnumber) (tryAt_look hedge)

/-- In front of a word character, a literal without a fraction is not chosen at all. -/
private theorem tryAt_literalPattern_whole (hc : c.rest = y :: (x.text ++ r))
    (hr : ∃ z ∈ r.head?, isWord z = true ∧ isDigit z = false) (hf : x.fraction = none) :
    literalPattern.tryAt c = none := by
  rw [tryAt_eq_none_iff]
  intro d hd
  obtain ⟨e, he, hedge, _⟩ :=
    (mem_offers_literalPattern hprev hy hc (minus_not_mem_head? x r)).mp hd
  exact (eq_past_of_atEdge rfl hr he hedge).1 hf

/-- In front of a word character, a literal with a fraction is chosen up to its point. -/
private theorem tryAt_literalPattern_fraction (hc : c.rest = y :: (x.text ++ r))
    (hr : ∃ z ∈ r.head?, isWord z = true ∧ isDigit z = false) {f : Digits}
    (hf : x.fraction = some f) :
    literalPattern.tryAt c =
      some (((c.past [y] (x.text ++ r)).past x.whole.text (x.tail ++ r)).mark 1 (c.index + 1)) := by
  have hoffers (d : Cursor) :=
    mem_offers_literalPattern (d := d) hprev hy hc (minus_not_mem_head? x r)
  have htail : x.tail = '.' :: f.text := by
    rw [DecimalLiteral.tail, hf]
    rfl
  apply tryAt_eq_some
  · have hdigits : (c.past [y] (x.text ++ r)).past x.whole.text (x.tail ++ r) ∈
        digit.plus.offers (c.past [y] (x.text ++ r)) :=
      mem_offers_plus_one.mpr ⟨_, _, x.whole.nonempty, List.append_assoc _ _ _,
        fun _ hz => x.whole.isDigit_of_mem hz, rfl⟩
    have hedge : atEdge ((c.past [y] (x.text ++ r)).past x.whole.text (x.tail ++ r)) = true := by
      have hlast := List.getLast?_eq_some_getLast x.whole.nonempty
      rw [atEdge, Cursor.past, hlast, htail, Option.some_or, Option.any_some,
        x.whole.isWord_of_mem (List.getLast_mem x.whole.nonempty)]
      rfl
    exact (hoffers _).mpr
      ⟨_, mem_offers_append.mpr ⟨_, hdigits, mem_offers_opt.mpr (.inr rfl)⟩, hedge, rfl⟩
  · intro d hd
    obtain ⟨e, he, hedge, rfl⟩ := (hoffers d).mp hd
    rw [(eq_past_of_atEdge rfl hr he hedge).2]

end Fresh

/-! ## Lines -/

/-- A line that multiplies by a literal. -/
def multiplied (literal : List Char) : List Char :=
  "return price * ".toList ++ (literal ++ [';'])

private theorem stripLiterals_multiplied {t : List Char} (ht : t ⊆ literalChars) :
    Code.stripLiterals (multiplied t) = multiplied t := by
  have hfront : ∀ c ∈ "return price * ".toList, c ∉ Code.quotes :=
    List.all_iff_forall_prop.mp (by decide)
  have hliteral : ∀ c ∈ literalChars, c ∉ Code.quotes := List.all_iff_forall_prop.mp (by decide)
  have hback : ∀ c ∈ [';'], c ∉ Code.quotes := List.all_iff_forall_prop.mp (by decide)
  apply Code.stripLiterals_eq_self
  intro c hc
  rcases List.mem_append.mp hc with hc | hc
  · exact hfront c hc
  · rcases List.mem_append.mp hc with hc | hc
    · exact hliteral c (ht hc)
    · exact hback c hc

/-- No literal starts before the factor. -/
private theorem findAll_multiplied (t : List Char) :
    literalPattern.findAll (multiplied t) =
      literalPattern.findAllFrom (multiplied t) none 0 (some '*') 14 (' ' :: (t ++ [';'])) := by
  have hwords : ∀ c ∈ "return price * ".toList, startsNumber c = false :=
    List.all_iff_forall_prop.mp (by decide)
  have hfront : "return price * ".toList = "return price *".toList ++ [' '] := by decide
  have hlast : "return price *".toList.getLast?.or none = some '*' := by decide
  have hline : multiplied t = "return price *".toList ++ ' ' :: (t ++ [';']) :=
    (congrArg (· ++ (t ++ [';'])) hfront).trans (List.append_assoc _ _ _)
  have hskip : literalPattern.findAllFrom (multiplied t) none 0 none 0
        ("return price *".toList ++ ' ' :: (t ++ [';'])) =
      literalPattern.findAllFrom (multiplied t) none 0 ("return price *".toList.getLast?.or none)
        (0 + "return price *".toList.length) (' ' :: (t ++ [';'])) := by
    refine findAllFrom_append fun front c back hw => tryAt_literalPattern_of_take ?_
    have hmem : ∀ z ∈ c :: back, startsNumber z = false := by
      intro z hz
      apply hwords z
      rw [hfront, hw]
      exact List.mem_append_left _ (List.mem_append_right front hz)
    intro z hz
    cases back with
    | nil =>
      rcases List.mem_cons.mp hz with rfl | hz
      · exact hmem z List.mem_cons_self
      · rw [List.mem_singleton.mp hz]
        decide
    | cons c' back => exact hmem z (List.mem_of_mem_take (i := 2) hz)
  rw [hlast, ← hline] at hskip
  exact hskip

/-- No literal starts in the rest of a word. -/
private theorem findAllFrom_word {subject : List Char} {last : Option Nat} {prev : Option Char}
    {index : Nat} {w : List Char} (hprev : prev ≠ none)
    (hw : ∀ c ∈ w, (isWord c || c == '.') = true) :
    literalPattern.findAllFrom subject last 0 prev index (w ++ [';']) = [] := by
  have hend (d : Cursor) (hd : d.rest.take 2 ⊆ [';']) : literalPattern.tryAt d = none := by
    apply tryAt_literalPattern_of_take
    intro z hz
    rw [List.mem_singleton.mp (hd hz)]
    decide
  rw [findAllFrom_append, findAllFrom_cons_none (hend _ (List.Subset.refl _)),
    findAllFrom_nil_none (hend _ (List.nil_subset _))]
  intro front c back hsplit
  apply tryAt_literalPattern_of_word
  · cases front.getLast? with
    | none => exact hprev
    | some z => nofun
  · rintro _ ⟨⟩
    exact hw c (hsplit ▸ List.mem_append_right front List.mem_cons_self)

/-- The literals of a line are those from the blank in front of the factor on. -/
private theorem literals_multiplied {t : List Char} (ht : t ⊆ literalChars) :
    literals (multiplied t) =
      (literalPattern.findAllFrom (multiplied t) none 0 (some '*') 14
        (' ' :: (t ++ [';']))).filterMap fun m => readFloat? (m.group 1) := by
  rw [literals, stripLiterals_multiplied ht, findAll_multiplied]

private theorem isWord_or_point {c : Char} (hc : c ∈ literalChars) :
    (isWord c || c == '.') = true := by
  have hall : literalChars.all (fun c => isWord c || c == '.') = true := by decide
  exact List.all_eq_true.mp hall c hc

/-- A line shows nothing when no literal is chosen for its factor. -/
private theorem literals_multiplied_of_none {t : List Char} (ht : t ⊆ literalChars)
    (hchoice : literalPattern.tryAt ⟨some '*', ' ' :: (t ++ [';']), 14, []⟩ = none) :
    literals (multiplied t) = [] := by
  rw [literals_multiplied ht, findAllFrom_cons_none hchoice,
    findAllFrom_word (Option.some_ne_none ' ') fun c hc => isWord_or_point (ht hc)]
  rfl

/-- A line shows the literal that is chosen at the start of its factor. -/
private theorem literals_multiplied_of_some {x : DecimalLiteral} {w : List Char} {d : Cursor}
    (ht : x.text ++ w ⊆ literalChars)
    (hchoice : literalPattern.tryAt ⟨some '*', ' ' :: (x.text ++ (w ++ [';'])), 14, []⟩ = some d)
    (hindex : d.index = 14 + 1 + x.text.length)
    (hmarks : d.marks = [(1, 15, 15 + x.text.length)]) :
    literals (multiplied (x.text ++ w)) = [x.value] := by
  have hprev : x.text.getLast?.or (some ' ') ≠ none := by
    cases x.text.getLast? <;> nofun
  have hsubject : multiplied (x.text ++ w) =
      "return price * ".toList ++ (x.text ++ (w ++ [';'])) :=
    congrArg ("return price * ".toList ++ ·) (List.append_assoc x.text w [';'])
  have hgroup : (⟨multiplied (x.text ++ w), 14, d.index, d.marks⟩ : Match).group 1 = x.text := by
    rw [hmarks, hsubject]
    exact group_eq "return price * ".toList x.text (w ++ [';'])
  rw [literals_multiplied ht, List.append_assoc, findAllFrom_cons_some hchoice hindex,
    findAllFrom_word hprev fun c hc => isWord_or_point (ht (List.mem_append_right _ hc)),
    List.filterMap_cons, hgroup, x.readFloat?_text]
  rfl

/-- As the value of an assertion, a decimal literal is read as the number that it denotes whatever
its suffix is. A line of code shows this number only when there is no suffix. With a suffix it shows
the part before the point, or nothing when there is no point. -/
theorem typed_literal_readings (x : DecimalLiteral) :
    (∀ s ∈ [] :: typeSuffixes, readNumeric? (x.text ++ s) = some x.value) ∧
      literals (multiplied x.text) = [x.value] ∧
      ∀ s ∈ typeSuffixes,
        literals (multiplied (x.text ++ s)) =
          if x.fraction.isSome then [x.truncated.value] else [] := by
  refine ⟨fun s => x.readNumeric?_text, ?_, fun s hs => ?_⟩
  · have hchars := x.subset_literalChars (s := []) List.mem_cons_self
    have hstop : ∀ z ∈ [';'].head?, isDigit z = false ∧ z ≠ '.' := by
      rintro _ ⟨⟩
      decide
    have hchoice := tryAt_literalPattern_plain (x := x) (r := [';'])
      (c := ⟨some '*', ' ' :: (x.text ++ [';']), 14, []⟩) nofun (by decide) rfl hstop (by decide)
    have hline := literals_multiplied_of_some hchars hchoice rfl rfl
    rw [List.append_nil] at hline
    exact hline
  · have hchars := x.subset_literalChars (List.mem_cons_of_mem [] hs)
    have hfirst : ∃ z ∈ (s ++ [';']).head?, isWord z = true ∧ isDigit z = false := by
      have hany : ∀ s ∈ typeSuffixes,
          (s ++ [';']).head?.toList.any fun z => isWord z = true ∧ isDigit z = false := by decide
      obtain ⟨z, hz, hword⟩ := List.any_iff_exists_prop.mp (hany s hs)
      exact ⟨z, Option.mem_toList.mp hz, hword⟩
    cases hf : x.fraction with
    | none =>
      have hchoice := tryAt_literalPattern_whole (r := s ++ [';'])
        (c := ⟨some '*', ' ' :: (x.text ++ (s ++ [';'])), 14, []⟩) nofun (by decide) rfl
        hfirst hf
      rw [← List.append_assoc] at hchoice
      exact literals_multiplied_of_none hchars hchoice
    | some f =>
      have hchoice := tryAt_literalPattern_fraction (r := s ++ [';'])
        (c := ⟨some '*', ' ' :: (x.text ++ (s ++ [';'])), 14, []⟩) nofun (by decide) rfl
        hfirst hf
      have hwhole : x.truncated.text = x.whole.text := List.append_nil _
      have htext : x.text ++ s = x.truncated.text ++ (x.tail ++ s) := by
        rw [hwhole, DecimalLiteral.text, List.append_assoc]
      rw [← List.append_assoc, htext, List.append_assoc] at hchoice
      rw [htext] at hchars ⊢
      exact literals_multiplied_of_some hchars hchoice (by rw [hwhole]; rfl) (by rw [hwhole]; rfl)

/-- The literal 0.85. -/
def eightyFivePercent : DecimalLiteral :=
  ⟨⟨['0'], by decide, by decide⟩, some ⟨['8', '5'], by decide, by decide⟩⟩

/-- The literal 10. -/
def ten : DecimalLiteral :=
  ⟨⟨['1', '0'], by decide, by decide⟩, none⟩

/-- The two readings of a literal can differ: a fraction with a suffix is cut off, and a whole
number with a suffix is missed. -/
theorem typed_literal_readings_differ :
    (readNumeric? (eightyFivePercent.text ++ ['f']) = some 0.85 ∧
      literals (multiplied (eightyFivePercent.text ++ ['f'])) = [0.0]) ∧
    (readNumeric? (ten.text ++ ['f']) = some 10.0 ∧
      literals (multiplied (ten.text ++ ['f'])) = []) := by
  refine ⟨⟨?_, ?_⟩, ?_, ?_⟩
  all_goals decide

end Value

end Adjudicator
