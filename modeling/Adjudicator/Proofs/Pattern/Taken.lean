import Adjudicator.Proofs.Pattern.Needed

/-!
# Words that patterns take

A pattern takes a word in front of a rest when the word is its first choice there, whatever stands
before it. Main statement: a pattern with two groups that takes each part of a text finds the text,
and its groups are the two parts. A lazy group takes the characters that the pattern behind it
rejects. The groups that a pattern records in a word are moved along when another pattern stands in
front of it, so any number of groups is read off part by part.
-/

namespace Adjudicator.Pattern

open Text Cursor

variable {p q body first second lead middle tail : Pattern} {accepts inside : Char → Bool}
  {taken taken' rest : List Char}

/-! ## Taking -/

/-- The first choice of a pattern in front of a rest is a word. -/
def Takes (p : Pattern) (taken rest : List Char) : Prop :=
  ∀ c : Cursor, c.rest = taken ++ rest → p.tryAt c = some (c.past taken rest)

/-- The empty pattern takes the empty word. -/
theorem takes_here : here.Takes [] rest := by
  intro c hc
  obtain rfl : c.rest = rest := hc
  rfl

/-- A text is taken as it is. -/
theorem takes_text (word : String) : (text word).Takes word.toList rest :=
  fun _ => tryAt_text

/-- One character of a class is taken. -/
theorem takes_one {x : Char} (hx : accepts x = true) : (one accepts).Takes [x] rest :=
  fun _ hc => tryAt_one hc hx

/-- A repetition takes the characters of its class up to the first other one. -/
theorem takes_star_one (htaken : ∀ x ∈ taken, accepts x = true)
    (hrest : ∀ x ∈ rest.head?, accepts x = false) : (one accepts).star.Takes taken rest :=
  fun _ hc => tryAt_star_one hc htaken hrest

/-- A repetition of at least one character takes the characters of its class, where there are any.
-/
theorem takes_plus_one (hne : taken ≠ []) (htaken : ∀ x ∈ taken, accepts x = true)
    (hrest : ∀ x ∈ rest.head?, accepts x = false) : (one accepts).plus.Takes taken rest :=
  fun _ hc => tryAt_plus_one hne hc htaken hrest

/-- What holds at the end of a text is taken there. -/
private theorem takes_look {holds : Option Char → List Char → Bool}
    (h : ∀ prev, holds prev [] = true) : (look holds).Takes [] [] := by
  intro c hc
  have hend : c.rest = [] := hc
  have hpast : c.past [] c.rest = c := rfl
  rw [hend] at hpast
  rw [hpast]
  refine tryAt_look ?_
  rw [hend]
  exact h c.prev

/-- The end of a line is taken at the end of a text. -/
theorem takes_lineEnd : lineEnd.Takes [] [] :=
  takes_look fun _ => rfl

/-- The end of a text is taken at the end of the text. -/
theorem takes_textEnd : textEnd.Takes [] [] :=
  takes_look fun _ => rfl

/-- Two patterns in a row take what one takes and then the other. -/
theorem Takes.append (hp : p.Takes taken (taken' ++ rest)) (hq : q.Takes taken' rest) :
    (p ++ q).Takes (taken ++ taken') rest := by
  intro c hc
  rw [List.append_assoc] at hc
  rw [← past_past]
  exact tryAt_append (hp c hc) (hq _ rfl)

/-- Alternatives take what the left one takes. -/
theorem Takes.either (hp : p.Takes taken rest) : (Pattern.either p q).Takes taken rest :=
  fun c hc => tryAt_either_left (hp c hc)

/-- A word is taken in any case. -/
theorem takes_anyCase {word : String}
    (h : List.Forall₂ (fun c x => sameFolded c x = true) word.toList taken) :
    (anyCase word).Takes taken rest := by
  rw [anyCase]
  generalize word.toList = cs at h
  induction h with
  | nil => exact takes_here
  | cons hx _ ih => exact Takes.append (takes_one hx) ih

/-! ## Rejecting -/

/-- A pattern fits no text that begins with a character of a class. -/
def Rejects (p : Pattern) (inside : Char → Bool) : Prop :=
  ∀ (c : Cursor) (x : Char) (rest : List Char), c.rest = x :: rest → inside x = true →
    p.tryAt c = none

/-- A pattern of one character fits in front of no other class. -/
theorem rejects_one (h : ∀ x, inside x = true → accepts x = false) :
    (one accepts).Rejects inside := by
  intro c x rest hc hx
  refine tryAt_one_none fun y hy => ?_
  rw [hc, List.head?_cons, Option.mem_some_iff] at hy
  exact hy ▸ h x hx

/-- Where the first of two patterns does not fit, both do not. -/
theorem Rejects.append (hp : p.Rejects inside) : (p ++ q).Rejects inside :=
  fun c x rest hc hx => tryAt_append_none (hp c x rest hc hx)

/-- A text begins with its first character. -/
theorem rejects_text {word : String} {x : Char} {w : List Char} (hword : word.toList = x :: w)
    (hx : inside x = false) : (text word).Rejects inside := by
  intro c y rest hc hy
  refine tryAt_chars_none fun hprefix => ?_
  rw [hc, hword, List.cons_prefix_cons] at hprefix
  obtain ⟨rfl, -⟩ := hprefix
  rw [hx] at hy
  cases hy

/-- Where no alternative fits, the choice does not. -/
theorem Rejects.either (hp : p.Rejects inside) (hq : q.Rejects inside) :
    (Pattern.either p q).Rejects inside := by
  intro c x rest hc hx
  rw [tryAt_either_right (hp c x rest hc hx)]
  exact hq c x rest hc hx

/-- What fits nowhere in front of a rest is not taken where it is optional. -/
theorem takes_opt_of_none (h : ∀ c : Cursor, c.rest = rest → p.tryAt c = none) :
    p.opt.Takes [] rest := by
  intro c hc
  have hrest : c.rest = rest := hc
  have hpast : c.past [] c.rest = c := rfl
  rw [tryAt_opt_none (h c hrest), ← hrest, hpast]

/-- What is rejected is not taken where it is optional. -/
theorem Rejects.takes_opt {x : Char} (hp : p.Rejects inside) (hx : inside x = true) :
    p.opt.Takes [] (x :: rest) :=
  takes_opt_of_none fun c hc => hp c x rest hc hx

/-- What the first pattern rejects is left to the second. -/
theorem Rejects.takes_either {x : Char} {w : List Char} (hp : p.Rejects inside)
    (hx : inside x = true) (hq : q.Takes (x :: w) rest) :
    (Pattern.either p q).Takes (x :: w) rest := by
  intro c hc
  rw [tryAt_either_right (hp c x (w ++ rest) hc hx)]
  exact hq c hc

/-- Where a body does not fit, its group does not. -/
theorem Rejects.group (number : Nat) (hp : p.Rejects inside) : (group number p).Rejects inside := by
  intro c x rest hc hx
  have hnone := hp c x rest hc hx
  rw [tryAt_eq_none_iff] at hnone ⊢
  intro d hd
  obtain ⟨e, he, -⟩ := mem_offers_group.mp hd
  exact hnone e he

/-- The end of a line is not in front of a character other than a line feed. -/
theorem rejects_lineEnd (h : inside '\n' = false) : lineEnd.Rejects inside := by
  intro c x rest hc hx
  have hne : x ≠ '\n' := by
    rintro rfl
    rw [h] at hx
    cases hx
  refine tryAt_look_none ?_
  rw [hc]
  exact beq_false_of_ne hne

/-- A repetition that takes none leaves it to the pattern behind it. -/
theorem Rejects.star_one_append (h : ∀ x, inside x = true → accepts x = false)
    (hq : q.Rejects inside) : ((one accepts).star ++ q).Rejects inside := by
  intro c x rest hc hx
  have hoffers : (one accepts).star.offers c = [c] := by
    refine offers_star_one_of_not fun y hy => ?_
    rw [hc, List.head?_cons, Option.mem_some_iff] at hy
    exact hy ▸ h x hx
  have hnone := hq c x rest hc hx
  rw [tryAt_eq_none_iff] at hnone ⊢
  intro d hd
  obtain ⟨e, he, hd⟩ := mem_offers_append.mp hd
  rw [hoffers, List.mem_singleton] at he
  exact hnone d (he ▸ hd)

/-- Where neither an optional pattern fits nor the one behind it, both in a row do not. -/
theorem Rejects.opt_append (hp : p.Rejects inside) (hq : q.Rejects inside) :
    (opt p ++ q).Rejects inside := by
  intro c x rest hc hx
  have hfirst := hp c x rest hc hx
  have hsecond := hq c x rest hc hx
  rw [tryAt_eq_none_iff] at hfirst hsecond ⊢
  intro d hd
  obtain ⟨e, he, hbehind⟩ := mem_offers_append.mp hd
  rcases mem_offers_opt.mp he with he | rfl
  · exact hfirst e he
  · exact hsecond d hbehind

/-- In front of a text that does not end in a blank, what follows a gap begins in the text. -/
theorem exists_of_mem_offers_gap {more back : List Char} {c d : Cursor}
    (hlast : ∃ y ∈ more.getLast?, isBlank y = false) (hc : c.rest = more ++ back)
    (hd : d ∈ (gap ++ p).offers c) :
    ∃ blanks inner, more = blanks ++ inner ∧ inner ≠ [] ∧
      d ∈ p.offers (c.past blanks (inner ++ back)) := by
  obtain ⟨e, he, hd⟩ := mem_offers_append.mp hd
  obtain ⟨blanks, rest, hsplit, hblanks, rfl⟩ := mem_offers_star_one.mp he
  obtain ⟨y, hy, hblank⟩ := hlast
  obtain ⟨inner, hmore, hrest⟩ : ∃ inner, more = blanks ++ inner ∧ rest = inner ++ back := by
    rcases List.append_eq_append_iff.mp (hc.symm.trans hsplit) with ⟨tail, rfl, -⟩ | hinner
    · have hy := hblanks y (List.mem_append_left tail (List.mem_of_getLast? hy))
      rw [hblank] at hy
      cases hy
    · exact hinner
  refine ⟨blanks, inner, hmore, ?_, hrest ▸ hd⟩
  rintro rfl
  rw [List.append_nil] at hmore
  have hy := hblanks y (hmore ▸ List.mem_of_getLast? hy)
  rw [hblank] at hy
  cases hy

/-- A word behind a gap is not read in front of a text that does not end in a blank, when the word
begins at none of its places. -/
theorem tryAt_gap_text_none {word : String} {more back : List Char} {c : Cursor}
    (hlast : ∃ y ∈ more.getLast?, isBlank y = false)
    (hword : ∀ front inner, more = front ++ inner → inner ≠ [] → ¬word.toList <+: inner ++ back)
    (hc : c.rest = more ++ back) : (gap ++ text word).tryAt c = none := by
  refine tryAt_eq_none_iff.mpr fun d hd => ?_
  obtain ⟨blanks, inner, hmore, hne, hd⟩ := exists_of_mem_offers_gap hlast hc hd
  exact tryAt_eq_none_iff.mp (tryAt_chars_none (hword blanks inner hmore hne)) d hd

/-! ## Words in any case -/

section AnyCase

variable {c : Cursor} {words : List String} {w : List Char}

/-- Whether two texts differ by more than case before the shorter one ends. -/
def clash : List Char → List Char → Bool
  | x :: v, y :: w => !sameFolded x y || clash v w
  | _, _ => false

/-- A word is not read where a text stands that clashes with it. -/
theorem tryAt_anyCase_none {word : String} (h : clash word.toList w = true)
    (hc : c.rest = w ++ rest) : (anyCase word).tryAt c = none := by
  rw [anyCase]
  generalize word.toList = v at h
  induction v generalizing c w with
  | nil => cases h
  | cons x v ih =>
    cases w with
    | nil => cases h
    | cons y w =>
      rw [tryAt_eq_none_iff]
      intro d hd
      obtain ⟨e, he, hd⟩ := mem_offers_append.mp hd
      obtain ⟨z, tail, hz, hsame, rfl⟩ := mem_offers_one.mp he
      rw [hc, List.cons_append, List.cons.injEq] at hz
      obtain ⟨rfl, rfl⟩ := hz
      rw [clash, hsame, Bool.not_true, Bool.false_or] at h
      exact tryAt_eq_none_iff.mp (ih rfl h) d hd

/-- The first of some words that does not clash with a text is the text itself, up to case. -/
def firstIs (w : List Char) : List String → Bool
  | [] => false
  | v :: words =>
    decide (List.Forall₂ (fun c x => sameFolded c x = true) v.toList w) ||
      (clash v.toList w && firstIs w words)

/-- Of several words the first one that is in front is taken. -/
theorem takes_choice_anyCase (h : firstIs w words = true) :
    (choice (words.map anyCase)).Takes w rest := by
  induction words with
  | nil => cases h
  | cons v words ih =>
    rw [firstIs, Bool.or_eq_true, decide_eq_true_eq, Bool.and_eq_true] at h
    cases words with
    | nil =>
      rcases h with h | ⟨-, h⟩
      · exact takes_anyCase h
      · cases h
    | cons next words =>
      rcases h with h | ⟨hclash, h⟩
      · exact (takes_anyCase h).either
      · intro c hc
        exact (tryAt_either_right (tryAt_anyCase_none hclash hc)).trans (ih h c hc)

/-- No word is read where a text stands that clashes with all. -/
theorem tryAt_choice_anyCase_none (h : ∀ v ∈ words, clash v.toList w = true)
    (hc : c.rest = w ++ rest) : (choice (words.map anyCase)).tryAt c = none := by
  induction words with
  | nil => exact tryAt_one_none fun _ _ => rfl
  | cons v words ih =>
    obtain ⟨hv, hwords⟩ := List.forall_mem_cons.mp h
    have hnone := tryAt_anyCase_none hv hc
    cases words with
    | nil => exact hnone
    | cons next words => exact (tryAt_either_right hnone).trans (ih hwords)

end AnyCase

/-! ## Groups -/

/-- With another pattern behind it, a body takes a text in front of a rest as a group. -/
def TakesBefore (body next : Pattern) (taken rest : List Char) : Prop :=
  ∀ (number : Nat) (c d : Cursor), c.rest = taken ++ rest →
    next.tryAt ((c.past taken rest).mark number c.index) = some d →
    (group number body ++ next).tryAt c = some d

/-- What a body takes alone, it takes before any pattern. -/
theorem Takes.before (h : body.Takes taken rest) : body.TakesBefore q taken rest :=
  fun number c _ hc hd => tryAt_append (tryAt_group number (h c hc)) hd

/-- A lazy repetition takes its first character and goes on where the next pattern fits nothing. -/
theorem plusLazy_one_cons_before {x : Char} (hx : accepts x = true)
    (haccepts : ∀ y ∈ taken, accepts y = true)
    (hq : ∀ fewer more, taken = fewer ++ more → more ≠ [] →
      ∀ c : Cursor, c.rest = more ++ rest → q.tryAt c = none) :
    (one accepts).plusLazy.TakesBefore q (x :: taken) rest := by
  intro number c d hc hd
  change (one accepts).plusLazy.run c (fun e => q.tryAt (e.mark number c.index)) = some d
  refine run_of_tryAt (p := one accepts) (tryAt_one hc hx) ?_
  refine run_starLazy_one rfl haccepts (fun fewer more hsplit hmore => ?_) ?_
  · exact hq fewer more hsplit hmore _ rfl
  · rw [past_past]
    exact hd

/-- As `plusLazy_one_cons_before`, where what is next is told at which place it is tried. -/
theorem tryAt_group_plusLazy_one {number : Nat} {c d : Cursor} (hne : taken ≠ [])
    (hc : c.rest = taken ++ rest) (haccepts : ∀ x ∈ taken, accepts x = true)
    (hq : ∀ fewer more, taken = fewer ++ more → more ≠ [] →
      q.tryAt ((c.past fewer (more ++ rest)).mark number c.index) = none)
    (hd : q.tryAt ((c.past taken rest).mark number c.index) = some d) :
    (group number (one accepts).plusLazy ++ q).tryAt c = some d := by
  change (one accepts).plusLazy.run c (fun e => q.tryAt (e.mark number c.index)) = some d
  exact run_plusLazy_one hne hc haccepts hq hd

/-- A lazy repetition takes the characters up to where the next pattern fits. -/
theorem plusLazy_one_before_of_none (hne : taken ≠ []) (haccepts : ∀ x ∈ taken, accepts x = true)
    (hq : ∀ fewer more, taken = fewer ++ more → more ≠ [] →
      ∀ c : Cursor, c.rest = more ++ rest → q.tryAt c = none) :
    (one accepts).plusLazy.TakesBefore q taken rest := by
  obtain ⟨x, taken, rfl⟩ := List.exists_cons_of_ne_nil hne
  obtain ⟨hx, haccepts⟩ := List.forall_mem_cons.mp haccepts
  exact plusLazy_one_cons_before hx haccepts fun fewer more hsplit =>
    hq (x :: fewer) more (congrArg (x :: ·) hsplit)

/-- A lazy repetition takes what the next pattern rejects. -/
theorem plusLazy_one_before (hne : taken ≠ []) (htaken : ∀ x ∈ taken, inside x = true)
    (haccepts : ∀ x ∈ taken, accepts x = true) (hq : q.Rejects inside) :
    (one accepts).plusLazy.TakesBefore q taken rest := by
  refine plusLazy_one_before_of_none hne haccepts fun fewer more hsplit hmore c hc => ?_
  obtain ⟨x, more, rfl⟩ := List.exists_cons_of_ne_nil hmore
  refine hq c x (more ++ rest) hc (htaken x ?_)
  rw [hsplit]
  exact List.mem_append_right fewer List.mem_cons_self

/-! ## The start of a text -/

private theorem tryAt_textStart_append (q : Pattern) (c : Cursor) :
    (textStart ++ q).tryAt c = if c.prev.isNone then q.tryAt c else none :=
  rfl

private theorem findFrom_textStart {subject : List Char} {x : Char} {index : Nat} {s : List Char}
    (hp : p.tryAt = (textStart ++ q).tryAt) : p.findFrom subject (some x) index s = none := by
  induction s generalizing x index with
  | nil =>
    rw [findFrom, hp, tryAt_textStart_append]
    rfl
  | cons y s ih =>
    rw [findFrom, hp, tryAt_textStart_append]
    exact ih

/-- A pattern of whole texts is tried at their start alone. -/
theorem find?_of_textStart (hp : p.tryAt = (textStart ++ q).tryAt) (s : List Char) :
    p.find? s = (q.tryAt (.start s)).map fun d => ⟨s, 0, d.index, d.marks⟩ := by
  have hstart : p.tryAt (.start s) = q.tryAt (.start s) := by
    rw [hp, tryAt_textStart_append]
    rfl
  cases s with
  | nil =>
    rw [← hstart]
    rfl
  | cons x s =>
    rw [find?, findFrom, show p.tryAt ⟨none, x :: s, 0, []⟩ = _ from hstart]
    cases q.tryAt (.start (x :: s)) with
    | some d => rfl
    | none => exact findFrom_textStart hp

/-- A whole text that does not begin with a word has no match of a pattern that does. -/
theorem find?_eq_none_of_not_start {word : String} {s : List Char}
    (hp : p.tryAt = (textStart ++ (text word ++ q)).tryAt) (h : ¬word.toList <+: s) :
    p.find? s = none := by
  have hnone : (text word ++ q).tryAt (.start s) = none :=
    tryAt_append_none (tryAt_chars_none h)
  rw [find?_of_textStart hp, hnone, Option.map_none]

/-! ## Recorded groups -/

section Recorded

variable {front inner : List Char} {groups groups' : List (Nat × List Char × List Char)}

/-- The places of a group in a word that begins at `index`, from the text in front of the group and
its own text. -/
def placeOf (index : Nat) : Nat × List Char × List Char → Nat × Nat × Nat
  | (number, front, inner) => (number, index + front.length, index + front.length + inner.length)

/-- A pattern takes a word and records groups in it: their numbers with the text in front of each
and its own text, newest first. -/
def Records (p : Pattern) (taken rest : List Char)
    (groups : List (Nat × List Char × List Char)) : Prop :=
  ∀ c : Cursor, c.rest = taken ++ rest → p.tryAt c =
    some { c.past taken rest with marks := groups.map (placeOf c.index) ++ c.marks }

/-- What is taken without groups records none. -/
theorem Takes.records (h : p.Takes taken rest) : p.Records taken rest [] :=
  h

/-- A group records what its body takes. -/
theorem Takes.records_group (number : Nat) (h : p.Takes taken rest) :
    (group number p).Records taken rest [(number, [], taken)] :=
  fun c hc => tryAt_group number (h c hc)

/-- A group that is taken before the next pattern is recorded in front of the groups of that. -/
theorem TakesBefore.records (number : Nat) (h : body.TakesBefore q taken (taken' ++ rest))
    (hq : q.Records taken' rest groups) :
    (group number body ++ q).Records (taken ++ taken') rest
      ((groups.map fun (number, front, inner) => (number, taken ++ front, inner)) ++
        [(number, [], taken)]) := by
  intro c hc
  rw [List.append_assoc] at hc
  refine (h number c _ hc (hq _ rfl)).trans ?_
  simp [placeOf, past, mark, Option.or_assoc, Nat.add_assoc]

/-- Two patterns in a row record the groups of both. -/
theorem Records.append (hp : p.Records taken (taken' ++ rest) groups)
    (hq : q.Records taken' rest groups') :
    (p ++ q).Records (taken ++ taken') rest
      ((groups'.map fun (number, front, inner) => (number, taken ++ front, inner)) ++ groups) := by
  intro c hc
  rw [List.append_assoc] at hc
  have hmoved (g : Nat × List Char × List Char) :
      placeOf c.index (g.1, taken ++ g.2.1, g.2.2) = placeOf (c.index + taken.length) g := by
    simp only [placeOf, List.length_append, Nat.add_assoc]
  refine tryAt_append (hp c hc) ((hq _ rfl).trans ?_)
  simp only [List.map_append, List.map_map, Function.comp_def, hmoved, List.append_assoc, past,
    List.getLast?_append, Option.or_assoc, List.length_append, Nat.add_assoc]

private theorem lookup_map_placeOf {number : Nat} (h : groups.lookup number = some (front, inner)) :
    (groups.map (placeOf 0)).lookup number = some (front.length, front.length + inner.length) := by
  induction groups with
  | nil => cases h
  | cons g groups ih =>
    rw [List.lookup_cons] at h
    rw [List.map_cons, placeOf, List.lookup_cons]
    split at h
    · obtain rfl := congrArg Prod.fst (Option.some.inj h)
      obtain rfl := congrArg Prod.snd (Option.some.inj h)
      rw [Nat.zero_add]
    · exact ih h

/-- What is taken at the start of a text is found, with the groups that are recorded there. -/
theorem Records.exists_find?_start {s : List Char} (hs : s = taken ++ rest)
    (hp : p.tryAt (.start s) = q.tryAt (.start s)) (h : q.Records taken rest groups) :
    ∃ m, p.find? s = some m ∧ ∀ number front inner,
      groups.lookup number = some (front, inner) → front ++ inner <+: s →
        m.group number = inner := by
  have htry := hp.trans (h (.start s) hs)
  refine ⟨_, find?_of_tryAt htry, ?_⟩
  rintro number front inner hlookup ⟨back, hsplit⟩
  rw [List.append_assoc] at hsplit
  refine group_of_span? hsplit.symm ?_
  rw [Match.span?, start, List.append_nil]
  exact lookup_map_placeOf hlookup

/-- A pattern of whole texts finds the word that it takes at their start, with its groups. -/
theorem Records.exists_find? (hp : p.tryAt = (textStart ++ q).tryAt)
    (h : q.Records taken rest groups) :
    ∃ m, p.find? (taken ++ rest) = some m ∧ ∀ number front inner,
      groups.lookup number = some (front, inner) → front ++ inner <+: taken ++ rest →
        m.group number = inner := by
  refine h.exists_find?_start rfl ?_
  rw [hp, tryAt_textStart_append]
  rfl

/-- A text that is taken part by part from its start is found, with its groups. -/
theorem find?_of_tryAt_groups {w₀ x w₁ y w₂ s : List Char}
    (hs : s = w₀ ++ (x ++ (w₁ ++ (y ++ w₂))))
    (hp : p.tryAt (.start s) =
      (lead ++ (group 1 first ++ (middle ++ (group 2 second ++ tail)))).tryAt (.start s))
    (hlead : lead.Takes w₀ (x ++ (w₁ ++ (y ++ w₂))))
    (hfirst : first.TakesBefore (middle ++ (group 2 second ++ tail)) x (w₁ ++ (y ++ w₂)))
    (hmiddle : middle.Takes w₁ (y ++ w₂))
    (hsecond : second.TakesBefore tail y w₂) (htail : tail.Takes w₂ []) :
    ∃ m, p.find? s = some m ∧ m.group 1 = x ∧ m.group 2 = y := by
  rw [← List.append_nil (x ++ (w₁ ++ (y ++ w₂)))] at hlead
  rw [← List.append_nil (w₁ ++ (y ++ w₂))] at hfirst
  rw [← List.append_nil (y ++ w₂)] at hmiddle
  rw [← List.append_nil w₂] at hsecond
  have hrecords := Records.append hlead.records
    (hfirst.records 1 (Records.append hmiddle.records (hsecond.records 2 htail.records)))
  obtain ⟨m, hm, hgroups⟩ :=
    hrecords.exists_find?_start (hs.trans (List.append_nil _).symm) hp
  refine ⟨m, hm, hgroups 1 _ x rfl ?_, hgroups 2 _ y rfl ?_⟩
  · exact ⟨w₁ ++ (y ++ w₂), by simp [hs]⟩
  · exact ⟨w₂, by simp [hs]⟩

/-- A pattern that takes a whole text, with two groups in it, is found with what they take. -/
theorem find?_of_groups {w₀ x w₁ y w₂ : List Char}
    (hp : p.tryAt = (lead ++ (group 1 first ++ (middle ++ (group 2 second ++ tail)))).tryAt)
    (hlead : lead.Takes w₀ (x ++ (w₁ ++ (y ++ w₂))))
    (hfirst : first.TakesBefore (middle ++ (group 2 second ++ tail)) x (w₁ ++ (y ++ w₂)))
    (hmiddle : middle.Takes w₁ (y ++ w₂))
    (hsecond : second.TakesBefore tail y w₂) (htail : tail.Takes w₂ []) :
    ∃ m, p.find? (w₀ ++ (x ++ (w₁ ++ (y ++ w₂)))) = some m ∧ m.group 1 = x ∧ m.group 2 = y :=
  find?_of_tryAt_groups rfl (congrFun hp _) hlead hfirst hmiddle hsecond htail

/-- The same with one group. -/
theorem find?_of_tryAt_group {w₀ x w₁ s : List Char} (hs : s = w₀ ++ (x ++ w₁))
    (hp : p.tryAt (.start s) = (lead ++ (group 1 first ++ tail)).tryAt (.start s))
    (hlead : lead.Takes w₀ (x ++ w₁)) (hfirst : first.TakesBefore tail x w₁)
    (htail : tail.Takes w₁ []) : ∃ m, p.find? s = some m ∧ m.group 1 = x := by
  rw [← List.append_nil (x ++ w₁)] at hlead
  rw [← List.append_nil w₁] at hfirst
  have hrecords := Records.append hlead.records (hfirst.records 1 htail.records)
  obtain ⟨m, hm, hgroups⟩ :=
    hrecords.exists_find?_start (hs.trans (List.append_nil _).symm) hp
  exact ⟨m, hm, hgroups 1 _ x rfl ⟨w₁, by simp [hs]⟩⟩

end Recorded

/-! ## Passing over words -/

section Passing

variable {L M : CharLanguage} {s : List Char} {m : Match}

/-- A pattern passes over words of a language alone, whatever groups it records. -/
def Passes (p : Pattern) (L : CharLanguage) : Prop :=
  ∀ c d, d ∈ p.offers c → ∃ taken ∈ L, c.rest = taken ++ d.rest

/-- A pattern that reads a language passes over its words only. -/
theorem Reads.passes (h : p.Reads L) : p.Passes L := by
  intro c d hd
  obtain ⟨taken, htaken, rest, hc, rfl⟩ := (h c d).mp hd
  exact ⟨taken, htaken, hc⟩

/-- A repetition of at least one character passes over words of its class that are not empty. -/
theorem passes_plus_one :
    (one accepts).plus.Passes {t | t ≠ [] ∧ ∀ x ∈ t, accepts x = true} := by
  intro c d hd
  obtain ⟨taken, rest, hne, hc, htaken, rfl⟩ := mem_offers_plus_one.mp hd
  exact ⟨taken, ⟨hne, htaken⟩, hc⟩

/-- Every pattern passes over some text. -/
theorem passes_any (p : Pattern) : p.Passes ⊤ := by
  intro c d hd
  obtain ⟨taken, htaken⟩ := suffix_of_mem_offers hd
  exact ⟨taken, trivial, htaken.symm⟩

/-- Two patterns in a row pass over concatenated words. -/
theorem Passes.append (hp : p.Passes L) (hq : q.Passes M) : (p ++ q).Passes (L * M) := by
  intro c d hd
  obtain ⟨e, he, hd⟩ := mem_offers_append.mp hd
  obtain ⟨a, ha, hc⟩ := hp c e he
  obtain ⟨b, hb, hrest⟩ := hq e d hd
  exact ⟨a ++ b, ⟨a, ha, b, hb, rfl⟩, by rw [hc, hrest, List.append_assoc]⟩

/-- A group passes over what its body does. -/
theorem Passes.group (number : Nat) (h : p.Passes L) : (group number p).Passes L := by
  intro c d hd
  obtain ⟨e, he, rfl⟩ := mem_offers_group.mp hd
  exact h c e he

/-- A text in which a pattern of whole texts is found begins with a word that the pattern passes. -/
theorem Passes.exists_prefix (hp : p.tryAt = (textStart ++ q).tryAt) (hq : q.Passes L)
    (h : p.find? s = some m) : ∃ taken ∈ L, taken <+: s := by
  rw [find?_of_textStart hp] at h
  obtain ⟨d, hd, -⟩ := Option.map_eq_some_iff.mp h
  obtain ⟨taken, htaken, hs⟩ := hq _ d (tryAt_mem_offers hd)
  exact ⟨taken, htaken, d.rest, hs.symm⟩

end Passing

end Adjudicator.Pattern
