import Adjudicator.Proofs.Pattern.Matches

/-!
# Groups of matches

A pattern reads only a language when every place that it offers is behind a word of the language.
Main statement: a match of a pattern with one group parts the text into words of the languages
around the group and the word of the group itself, at the recorded places. A lazy repetition takes
the fewest characters with which the rest of the pattern leads on.
-/

namespace Adjudicator.Pattern

open Cursor

variable {p q body : Pattern} {L M N : CharLanguage} {c d : Cursor} {s : List Char} {m : Match}
  {number : Nat}

/-! ## Words that are read -/

/-- A pattern reads nothing outside a language. -/
def ReadsOnly (p : Pattern) (L : CharLanguage) : Prop :=
  ∀ c d, d ∈ p.offers c → ∃ taken ∈ L, ∃ rest, c.rest = taken ++ rest ∧ d = c.past taken rest

/-- A pattern that reads a language reads nothing else. -/
theorem Reads.only (h : p.Reads L) : p.ReadsOnly L :=
  fun c d => (h c d).mp

/-- Two patterns in a row read concatenated words only. -/
theorem ReadsOnly.append (hp : p.ReadsOnly L) (hq : q.ReadsOnly M) :
    (p ++ q).ReadsOnly (L * M) := by
  intro c d hd
  obtain ⟨e, he, hd⟩ := mem_offers_append.mp hd
  obtain ⟨a, ha, rest, hc, rfl⟩ := hp c e he
  obtain ⟨b, hb, rest', hrest, rfl⟩ := hq _ d hd
  obtain rfl : rest = b ++ rest' := hrest
  exact ⟨a ++ b, ⟨a, ha, b, hb, rfl⟩, rest', by rw [hc, List.append_assoc], c.past_past a b _ _⟩

/-- A look around reads the empty word only. -/
theorem readsOnly_look {holds : Option Char → List Char → Bool} : (look holds).ReadsOnly 1 := by
  intro c d hd
  obtain ⟨_, rfl⟩ := mem_offers_look.mp hd
  exact ⟨[], rfl, d.rest, rfl, rfl⟩

/-- A group reads what its body does and is recorded there. -/
theorem ReadsOnly.group (h : body.ReadsOnly L) (hd : d ∈ (Pattern.group number body).offers c) :
    ∃ taken ∈ L, ∃ rest, c.rest = taken ++ rest ∧ d = (c.past taken rest).mark number c.index := by
  obtain ⟨e, he, rfl⟩ := mem_offers_group.mp hd
  obtain ⟨taken, htaken, rest, hc, rfl⟩ := h c e he
  exact ⟨taken, htaken, rest, hc, rfl⟩

/-- Characters are read as they are. -/
theorem reads_chars (w : List Char) : (chars w).Reads {w} := by
  induction w with
  | nil => exact reads_here
  | cons x t ih =>
    cases t with
    | nil => exact reads_char x
    | cons y t =>
      have hmul : ({[x]} * {y :: t} : CharLanguage) = {x :: y :: t} := Set.image2_singleton
      exact hmul ▸ reads_append (reads_char x) ih

/-- A text is read as it is. -/
theorem reads_text (s : String) : (text s).Reads {s.toList} :=
  reads_chars s.toList

/-- One of several texts is read as it is. -/
theorem reads_choice_text (words : List String) :
    (choice (words.map text)).Reads {t | ∃ w ∈ words, t = w.toList} := by
  have hall : List.Forall₂ Reads (words.map text)
      (words.map fun w => ({w.toList} : CharLanguage)) := by
    rw [List.forall₂_map_left_iff, List.forall₂_map_right_iff, List.forall₂_same]
    exact fun w _ => reads_text w
  have hsum : (words.map fun w => ({w.toList} : CharLanguage)).sum =
      {t | ∃ w ∈ words, t = w.toList} := by
    clear hall
    induction words with
    | nil =>
      ext t
      refine iff_of_false id ?_
      rintro ⟨_, hw, _⟩
      exact List.not_mem_nil hw
    | cons w words ih =>
      rw [List.map_cons, List.sum_cons, ih]
      ext t
      exact (List.exists_mem_cons_iff (fun v => t = v.toList) w words).symm
  exact hsum ▸ reads_choice hall

/-! ## The group of a match -/

/-- The text of a group is what stands at its places. -/
theorem group_of_span? {front taken back : List Char} (hm : m.subject = front ++ (taken ++ back))
    (h : m.span? number = some (front.length, front.length + taken.length)) :
    m.group number = taken := by
  rw [Match.group, Match.group?, h, Option.map_some, Option.getD_some]
  dsimp only
  rw [hm, List.drop_left, Nat.add_sub_cancel_left, List.take_left]

/-- A group whose text is not empty took part. -/
theorem group?_of_group {taken : List Char} (h : m.group number = taken) (hne : taken ≠ []) :
    m.group? number = some taken := by
  rw [Match.group] at h
  cases hgroup : m.group? number with
  | none =>
    rw [hgroup] at h
    exact absurd h.symm hne
  | some t =>
    rw [hgroup] at h
    exact congrArg some h

/-- A match of a pattern with one group parts the text around the group. -/
theorem Fits.exists_group (h : (p ++ Pattern.group number body ++ q).Fits s m)
    (hp : p.ReadsOnly L) (hbody : body.ReadsOnly M) (hq : q.ReadsOnly N) :
    ∃ front, ∃ a ∈ L, ∃ b ∈ M, ∃ t ∈ N, ∃ rest, s = front ++ a ++ (b ++ (t ++ rest)) ∧
      m.start = front.length ∧ m.stop = front.length + (a ++ (b ++ t)).length ∧
      m.text = a ++ (b ++ t) ∧
      m.span? number = some ((front ++ a).length, (front ++ a).length + b.length) ∧
      m.group number = b := by
  obtain ⟨front, back, d, rfl, hd, rfl⟩ := h
  obtain ⟨_, h, h₃⟩ := mem_offers_append.mp (tryAt_mem_offers hd)
  obtain ⟨_, h₁, h₂⟩ := mem_offers_append.mp h
  obtain ⟨a, ha, afterA, hback, rfl⟩ := hp _ _ h₁
  obtain ⟨b, hb, afterB, hafterA, rfl⟩ := hbody.group h₂
  obtain ⟨t, ht, rest, hafterB, rfl⟩ := hq _ _ h₃
  obtain rfl : back = a ++ afterA := hback
  obtain rfl : afterA = b ++ afterB := hafterA
  obtain rfl : afterB = t ++ rest := hafterB
  have hsplit := (List.append_assoc front a (b ++ (t ++ rest))).symm
  have hspan {start stop : Nat} : Match.span? ⟨front ++ (a ++ (b ++ (t ++ rest))), start, stop,
      [(number, front.length + a.length, front.length + a.length + b.length)]⟩ number =
        some ((front ++ a).length, (front ++ a).length + b.length) := by
    rw [Match.span?, List.lookup_cons_self, List.length_append]
  have hlength : front.length + a.length + b.length + t.length =
      front.length + (a ++ (b ++ t)).length := by
    simp only [List.length_append, Nat.add_assoc]
  refine ⟨front, a, ha, b, hb, t, ht, rest, hsplit, rfl, hlength, ?_, hspan,
    group_of_span? hsplit hspan⟩
  have htaken : a ++ (b ++ (t ++ rest)) = a ++ (b ++ t) ++ rest := by
    simp only [List.append_assoc]
  simp only [Match.text, past, mark, between, hlength, List.drop_left, Nat.add_sub_cancel_left]
  rw [htaken, List.take_left]

/-! ## Characters -/

/-- Characters are their own first choice. -/
theorem tryAt_chars {w rest : List Char} (hc : c.rest = w ++ rest) :
    (chars w).tryAt c = some (c.past w rest) := by
  refine tryAt_eq_some ((reads_chars w c _).mpr ⟨w, rfl, rest, hc, rfl⟩) fun d hd => ?_
  obtain ⟨_, rfl, rest', hc', rfl⟩ := (reads_chars w c d).mp hd
  rw [hc] at hc'
  rw [List.append_cancel_left hc']

/-- Characters are not read where they do not stand. -/
theorem tryAt_chars_none {w : List Char} (hc : ¬w <+: c.rest) : (chars w).tryAt c = none := by
  rw [tryAt_eq_none_iff]
  intro d hd
  obtain ⟨_, rfl, rest, hrest, -⟩ := (reads_chars w c d).mp hd
  exact hc ⟨rest, hrest.symm⟩

/-! ## Lazy repetitions -/

section Lazy

variable {β : Type} {accepts : Char → Bool} {x : Char} {rest : List Char} {next : Cursor → Option β}
  {answer : β}

/-- A lazy repetition stops first and then goes on over the next character. -/
theorem offers_starLazy_one_cons (h : c.rest = x :: rest) :
    (one accepts).starLazy.offers c =
      c :: if accepts x then (one accepts).starLazy.offers (c.past [x] rest) else [] := by
  have hindex : c.index < (c.past [x] rest).index := Nat.lt_succ_self c.index
  rw [starLazy, offers, h, List.length_cons, repeated, offers_one_cons h]
  cases accepts x with
  | true =>
    simp only [if_true, List.flatMap_cons, List.flatMap_nil, List.append_nil, hindex]
    rfl
  | false => rfl

/-- At the end of a text a lazy repetition stops. -/
theorem offers_starLazy_one_nil (h : c.rest = []) : (one accepts).starLazy.offers c = [c] := by
  rw [starLazy, offers, h]
  rfl

/-- A lazy repetition of a class takes the fewest characters with which what is next leads on. -/
theorem starLazy_one_run (h : (one accepts).starLazy.run c next = some answer) :
    ∃ taken rest, c.rest = taken ++ rest ∧ (∀ x ∈ taken, accepts x = true) ∧
      next (c.past taken rest) = some answer ∧
      ∀ fewer more, taken = fewer ++ more → more ≠ [] →
        next (c.past fewer (more ++ rest)) = none := by
  rw [run_eq_findSome?_offers] at h
  obtain ⟨prev, s, index, marks⟩ := c
  have hnone {s : List Char} {prev : Option Char} {index : Nat}
      (h : next ⟨prev, s, index, marks⟩ = some answer) :
      ∃ taken rest, s = taken ++ rest ∧ (∀ x ∈ taken, accepts x = true) ∧
        next (past ⟨prev, s, index, marks⟩ taken rest) = some answer ∧
        ∀ fewer more, taken = fewer ++ more → more ≠ [] →
          next (past ⟨prev, s, index, marks⟩ fewer (more ++ rest)) = none := by
    refine ⟨[], s, rfl, nofun, h, fun fewer more hsplit hmore => absurd ?_ hmore⟩
    exact (List.append_eq_nil_iff.mp hsplit.symm).2
  induction s generalizing prev index with
  | nil =>
    rw [offers_starLazy_one_nil rfl, List.findSome?_singleton] at h
    exact hnone h
  | cons x s ih =>
    rw [offers_starLazy_one_cons rfl, List.findSome?_cons] at h
    cases hfirst : next ⟨prev, x :: s, index, marks⟩ with
    | some found =>
      rw [hfirst] at h
      exact hnone (hfirst.trans h)
    | none =>
      rw [hfirst] at h
      dsimp only at h
      split at h
      next hx =>
        obtain ⟨taken, rest, hs, htaken, hnext, hfewer⟩ := ih _ _ h
        have hpast (w rest : List Char) : next _ = next _ :=
          congrArg next (past_past ⟨prev, x :: s, index, marks⟩ [x] w s rest)
        refine ⟨x :: taken, rest, congrArg (x :: ·) hs, List.forall_mem_cons.mpr ⟨hx, htaken⟩,
          (hpast taken rest).symm.trans hnext, fun fewer more hsplit hmore => ?_⟩
        cases fewer with
        | nil =>
          obtain rfl : x :: taken = more := hsplit
          have hall : x :: s = x :: taken ++ rest := congrArg (x :: ·) hs
          rw [← hall]
          exact hfirst
        | cons y fewer =>
          obtain ⟨rfl, htail⟩ := List.cons.inj hsplit
          exact (hpast fewer (more ++ rest)).symm.trans (hfewer fewer more htail hmore)
      next => cases h

end Lazy

end Adjudicator.Pattern
