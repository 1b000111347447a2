import Adjudicator.Proofs.Pattern.Needed

/-!
# Occurrences of words

A search for a word from left to right goes on behind each occurrence that it finds, so of a word
that overlaps itself it counts only some occurrences. Main statement: the matches of a word are its
counted occurrences. Of a word that ends in a character of its own every occurrence is counted.
-/

namespace Adjudicator

namespace Text

variable {w gap front back s : List Char} {c x : Char}

/-- The word does not occur in the gap with the word behind it, except at the end. -/
def Fresh (w gap : List Char) : Prop :=
  ∀ before after, gap ++ w = before ++ (w ++ after) → after = []

/-- The texts in front of the occurrences that a search from left to right counts. What follows
the occurrences has no part in it. -/
inductive Counted (w : List Char) : List Char → Prop
  /-- The first occurrence. -/
  | first {gap : List Char} (fresh : Fresh w gap) : Counted w gap
  /-- An occurrence that is counted behind the first one. -/
  | behind {gap front : List Char} (fresh : Fresh w gap) (rest : Counted w front) :
    Counted w (gap ++ (w ++ front))

/-- An occurrence is counted when it is the first one, or is counted behind the first one. -/
theorem counted_iff :
    Counted w front ↔
      Fresh w front ∨ ∃ gap rest, front = gap ++ (w ++ rest) ∧ Fresh w gap ∧ Counted w rest := by
  constructor
  · intro h
    cases h with
    | first fresh => exact .inl fresh
    | @behind gap rest fresh hrest => exact .inr ⟨gap, rest, rfl, fresh, hrest⟩
  · rintro (fresh | ⟨gap, rest, rfl, fresh, hrest⟩)
    · exact .first fresh
    · exact .behind fresh hrest

/-- In front of a word without a gap the word does not occur earlier. -/
theorem fresh_nil : Fresh w [] := by
  intro before after h
  have hlength := congrArg List.length h
  simp only [List.nil_append, List.length_append] at hlength
  exact List.eq_nil_of_length_eq_zero (by omega)

/-- A word that does not occur earlier in a gap does not do so in the end of the gap. -/
theorem Fresh.of_append (h : Fresh w (front ++ gap)) : Fresh w gap := by
  intro before after hsplit
  refine h (front ++ before) after ?_
  rw [List.append_assoc, hsplit, List.append_assoc]

/-- A word does not occur early behind a gap that ends in a character that it does not have. -/
theorem fresh_concat (hx : x ∉ w) (hgap : ¬w <:+: gap) : Fresh w (gap ++ [x]) := by
  intro before after hsplit
  rcases List.eq_nil_or_concat' after with rfl | ⟨after, y, rfl⟩
  · rfl
  rcases List.eq_nil_or_concat' w with rfl | ⟨w, z, rfl⟩
  · exact absurd List.nil_infix hgap
  -- without the last character of both sides the word would stand in the gap or in its own front
  simp only [← List.append_assoc] at hsplit
  obtain ⟨hfront, -⟩ := List.append_inj' hsplit rfl
  have hinfix : w ++ [z] <:+: gap ++ x :: w := by
    refine ⟨before, after, ?_⟩
    rw [List.append_cons gap x w, hfront, List.append_assoc before w [z]]
  rcases infix_or_of_infix_append_cons hx hinfix with hinside | hinside
  · exact absurd hinside hgap
  · have hlength := hinside.length_le
    rw [List.length_append, List.length_singleton] at hlength
    omega

/-- Behind the start of a text that begins with the word no occurrence is fresh. -/
theorem Fresh.eq_nil (h : Fresh w gap) (hw : w <+: gap ++ (w ++ back)) : gap = [] := by
  rw [← List.append_assoc] at hw
  have hlength : w.length ≤ (gap ++ w).length := by
    rw [List.length_append]
    omega
  obtain ⟨after, hafter⟩ := List.prefix_of_prefix_length_le hw (List.prefix_append _ _) hlength
  have hnil : after = [] := h [] after hafter.symm
  have hsum := congrArg List.length hafter
  rw [hnil, List.append_nil, List.length_append] at hsum
  exact List.eq_nil_of_length_eq_zero (by omega)

/-- Where the word does not begin, the first character has no part in an occurrence. -/
theorem fresh_cons_iff (hw : ¬w <+: c :: (gap ++ (w ++ back))) :
    Fresh w (c :: gap) ↔ Fresh w gap := by
  constructor
  · intro h before after hsplit
    exact h (c :: before) after (congrArg (c :: ·) hsplit)
  · intro h before after hsplit
    cases before with
    | nil =>
      have hstart : w <+: c :: gap ++ w := ⟨after, hsplit.symm⟩
      refine absurd (hstart.trans ⟨back, ?_⟩) hw
      simp only [List.cons_append, List.append_assoc]
    | cons d before =>
      obtain ⟨-, htail⟩ := List.cons.inj hsplit
      exact h before after htail

/-- Of two places of the word in a text that begins with it, the second is the end of the text when
the word does not occur earlier behind its first place. -/
theorem Fresh.eq_nil_of_twice {middle : List Char} (h : Fresh w gap)
    (hsplit : w ++ (gap ++ w) = front ++ (w ++ (middle ++ (w ++ back)))) : back = [] := by
  refine h ((front ++ (w ++ middle)).drop w.length) back ?_
  have hlength : w.length ≤ (front ++ (w ++ middle)).length := by
    simp only [List.length_append]
    omega
  rw [← List.drop_append_of_le_length hlength]
  have hdrop := congrArg (List.drop w.length) hsplit
  rw [List.drop_left] at hdrop
  simpa only [List.append_assoc] using hdrop

/-- A word that begins a text is counted there, and the search goes on behind it. -/
theorem counted_of_prefix_iff (hw : w <+: front ++ (w ++ back)) :
    Counted w front ↔ front = [] ∨ ∃ rest, front = w ++ rest ∧ Counted w rest := by
  rw [counted_iff]
  constructor
  · rintro (fresh | ⟨gap, rest, rfl, fresh, hrest⟩)
    · exact .inl (fresh.eq_nil hw)
    · simp only [List.append_assoc] at hw
      obtain rfl := fresh.eq_nil hw
      exact .inr ⟨rest, rfl, hrest⟩
  · rintro (rfl | ⟨rest, rfl, hrest⟩)
    · exact .inl fresh_nil
    · exact .inr ⟨[], rest, rfl, fresh_nil, hrest⟩

/-- Where the word does not begin, the search goes on behind the first character. -/
theorem counted_cons_iff (hw : ¬w <+: c :: (front ++ (w ++ back))) :
    Counted w (c :: front) ↔ Counted w front := by
  rw [counted_iff, counted_iff, fresh_cons_iff hw]
  refine or_congr_right ?_
  constructor
  · rintro ⟨_ | ⟨d, gap⟩, rest, hsplit, fresh, hrest⟩
    · have hstart : w <+: c :: front := ⟨rest, hsplit.symm⟩
      exact absurd (hstart.trans (List.prefix_append (c :: front) _)) hw
    · simp only [List.cons_append, List.cons.injEq] at hsplit
      obtain ⟨rfl, rfl⟩ := hsplit
      simp only [List.append_assoc] at hw
      exact ⟨gap, rest, rfl, (fresh_cons_iff hw).mp fresh, hrest⟩
  · rintro ⟨gap, rest, rfl, fresh, hrest⟩
    simp only [List.append_assoc] at hw
    exact ⟨c :: gap, rest, rfl, (fresh_cons_iff hw).mpr fresh, hrest⟩

/-- A word that ends in a character of its own does not reach into another occurrence. -/
theorem eq_append_of_prefix (hx : x ∉ w) (hne : front ≠ [])
    (h : w ++ [x] <+: front ++ (w ++ [x])) : ∃ rest, front = w ++ [x] ++ rest := by
  obtain ⟨after, hafter⟩ := h
  rcases List.append_eq_append_iff.mp hafter with ⟨rest, hfront, -⟩ | ⟨rest, hword, hrest⟩
  · exact ⟨rest, hfront⟩
  · -- the last character of the first occurrence would stand inside the second one
    rcases List.eq_nil_or_concat' rest with rfl | ⟨rest, y, rfl⟩
    · exact ⟨[], by rw [List.append_nil] at hword ⊢; exact hword.symm⟩
    · rw [← List.append_assoc] at hword
      obtain ⟨rfl, hlast⟩ := List.append_inj' hword rfl
      obtain rfl : x = y := List.singleton_inj.mp hlast
      rcases List.eq_nil_or_concat' after with rfl | ⟨after, z, rfl⟩
      · have hlength := congrArg List.length hrest
        simp only [List.length_append, List.length_singleton, List.length_nil] at hlength
        exact absurd (List.eq_nil_of_length_eq_zero (by omega)) hne
      · rw [← List.append_assoc] at hrest
        obtain ⟨hrest, -⟩ := List.append_inj' hrest rfl
        refine absurd ?_ hx
        simp only [hrest, List.mem_append, List.mem_singleton, or_true, true_or]

/-- Of a word that ends in a character of its own every occurrence is counted, since no two of them
overlap. -/
theorem counted_of_not_mem (hx : x ∉ w) (front : List Char) : Counted (w ++ [x]) front := by
  induction hn : front.length using Nat.strong_induction_on generalizing front with
  | _ n ih =>
    subst hn
    by_cases hstart : w ++ [x] <+: front ++ ((w ++ [x]) ++ [])
    · rw [counted_of_prefix_iff hstart]
      by_cases hne : front = []
      · exact .inl hne
      · rw [List.append_nil] at hstart
        obtain ⟨rest, rfl⟩ := eq_append_of_prefix hx hne hstart
        have hshort : rest.length < (w ++ [x] ++ rest).length := by
          simp only [List.length_append, List.length_singleton]
          omega
        exact .inr ⟨rest, rfl, ih _ hshort rest rfl⟩
    · cases front with
      | nil => exact absurd (List.prefix_append _ _) hstart
      | cons c front =>
        rw [counted_cons_iff hstart]
        exact ih _ (Nat.lt_succ_self _) front rfl

/-- A search for the word in a text counts an occurrence behind `front`. -/
def CountedAt (w s front : List Char) : Prop :=
  Counted w front ∧ front ++ w <+: s

/-- A word that begins a text is counted there, and the search goes on behind it. -/
theorem countedAt_append_iff {rest : List Char} :
    CountedAt w (w ++ rest) front ↔
      front = [] ∨ ∃ behind, front = w ++ behind ∧ CountedAt w rest behind := by
  constructor
  · rintro ⟨hcounted, back, hsplit⟩
    rw [List.append_assoc] at hsplit
    rcases (counted_of_prefix_iff ⟨rest, hsplit.symm⟩).mp hcounted with rfl | ⟨front, rfl, hrest⟩
    · exact .inl rfl
    · refine .inr ⟨front, rfl, hrest, back, ?_⟩
      rw [List.append_assoc] at hsplit ⊢
      exact List.append_cancel_left hsplit
  · rintro (rfl | ⟨front, rfl, hcounted, hprefix⟩)
    · exact ⟨.first fresh_nil, List.prefix_append w rest⟩
    · refine ⟨.behind fresh_nil hcounted, ?_⟩
      rw [List.append_assoc]
      exact (List.prefix_append_right_inj w).mpr hprefix

/-- Where the word does not begin, the search goes on behind the first character. -/
theorem countedAt_cons_iff (hw : ¬w <+: c :: s) :
    CountedAt w (c :: s) front ↔ ∃ behind, front = c :: behind ∧ CountedAt w s behind := by
  constructor
  · rintro ⟨hcounted, back, hsplit⟩
    cases front with
    | nil => exact absurd ⟨back, hsplit⟩ hw
    | cons d front =>
      rw [List.append_assoc] at hsplit
      obtain ⟨rfl, rfl⟩ := List.cons.inj hsplit
      refine ⟨front, rfl, (counted_cons_iff hw).mp hcounted, back, ?_⟩
      exact List.append_assoc _ _ _
  · rintro ⟨front, rfl, hcounted, back, rfl⟩
    rw [List.append_assoc] at hw
    exact ⟨(counted_cons_iff hw).mpr hcounted, back, rfl⟩

end Text

namespace Pattern

open Text

variable {w s subject : List Char} {last : Option Nat} {prev : Option Char} {index : Nat}
  {m : Match}

/-- The matches of a word from a place on are its counted occurrences there. -/
theorem mem_findAllFrom_chars (hw : w ≠ []) :
    m ∈ (chars w).findAllFrom subject last 0 prev index s ↔
      ∃ front, CountedAt w s front ∧
        m = ⟨subject, index + front.length, index + front.length + w.length, []⟩ := by
  induction hn : s.length using Nat.strong_induction_on generalizing s last prev index with
  | _ n ih =>
    subst hn
    by_cases hstart : w <+: s
    · obtain ⟨rest, rfl⟩ := hstart
      obtain ⟨x, tail, rfl⟩ := List.exists_cons_of_ne_nil hw
      have hmatch : (chars (x :: tail)).tryAt ⟨prev, x :: (tail ++ rest), index, []⟩ =
          some (Cursor.past ⟨prev, x :: (tail ++ rest), index, []⟩ (x :: tail) rest) :=
        tryAt_chars rfl
      have hindex : index + (x :: tail).length = index + 1 + tail.length := by
        rw [List.length_cons]
        omega
      have hshort : rest.length < (x :: tail ++ rest).length := by
        simp only [List.length_append, List.length_cons]
        omega
      rw [List.cons_append, findAllFrom_cons_some hmatch hindex, List.mem_cons, ih _ hshort rfl]
      simp only [← List.cons_append, countedAt_append_iff, Cursor.past]
      constructor
      · rintro (rfl | ⟨front, hcounted, rfl⟩)
        · exact ⟨[], .inl rfl, rfl⟩
        · refine ⟨x :: tail ++ front, .inr ⟨front, rfl, hcounted⟩, ?_⟩
          simp only [List.length_append, Nat.add_assoc]
      · rintro ⟨_, rfl | ⟨front, rfl, hcounted⟩, rfl⟩
        · exact .inl rfl
        · refine .inr ⟨front, hcounted, ?_⟩
          simp only [List.length_append, Nat.add_assoc]
    · cases s with
      | nil =>
        rw [findAllFrom_nil_none (tryAt_chars_none hstart)]
        refine iff_of_false List.not_mem_nil ?_
        rintro ⟨front, ⟨-, hprefix⟩, -⟩
        exact hw (List.append_eq_nil_iff.mp (List.prefix_nil.mp hprefix)).2
      | cons c s =>
        rw [findAllFrom_cons_none (tryAt_chars_none hstart), ih _ (Nat.lt_succ_self _) rfl]
        simp only [countedAt_cons_iff hstart]
        constructor
        · rintro ⟨front, hcounted, rfl⟩
          refine ⟨c :: front, ⟨front, rfl, hcounted⟩, ?_⟩
          simp only [List.length_cons, Nat.add_assoc, Nat.add_comm 1]
        · rintro ⟨_, ⟨front, rfl, hcounted⟩, rfl⟩
          refine ⟨front, hcounted, ?_⟩
          simp only [List.length_cons, Nat.add_assoc, Nat.add_comm 1]

/-- The matches of a word are its counted occurrences. -/
theorem mem_findAll_chars (hw : w ≠ []) :
    m ∈ (chars w).findAll s ↔
      ∃ front, CountedAt w s front ∧ m = ⟨s, front.length, front.length + w.length, []⟩ := by
  rw [findAll, mem_findAllFrom_chars hw]
  simp only [Nat.zero_add]

end Pattern

end Adjudicator
