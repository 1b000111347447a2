import Adjudicator.Proofs.Pattern.Taken

/-!
# Words that texts avoid

A text avoids a word when the word clashes with it at each of its places. Parts that avoid a word
are put together to texts that do, since a clash in a part is one in the whole. Main statement: of
words that a text avoids none is found in it.
-/

namespace Adjudicator.Pattern

open Text Cursor

variable {p : Pattern} {c : Cursor} {s t : List Char} {words : List String}

/-- Words that clash with a text clash with every longer one. -/
theorem clash_append {v w : List Char} (h : clash v w = true) (t : List Char) :
    clash v (w ++ t) = true := by
  induction v generalizing w with
  | nil => cases h
  | cons x v ih =>
    cases w with
    | nil => cases h
    | cons y w =>
      rw [clash, Bool.or_eq_true] at h
      rw [List.cons_append, clash, Bool.or_eq_true]
      exact h.imp_right ih

/-- A form of a word does not clash with it. -/
theorem clash_of_mem_folded {v w : List Char} (h : w ∈ folded v) (t : List Char) :
    clash v (w ++ t) = false := by
  induction h with
  | nil => cases t <;> rfl
  | cons hx _ ih => rw [List.cons_append, clash, hx, ih]; rfl

/-- A word clashes with a text at each of its places. -/
def Avoids (v s : List Char) : Prop :=
  ∀ front back, s = front ++ back → back ≠ [] → clash v back = true

/-- Whether a word avoids a text can be checked at each place. -/
theorem avoids_iff {v : List Char} :
    (s.tails.all fun t => t.isEmpty || clash v t) = true ↔ Avoids v s := by
  rw [List.all_eq_true]
  constructor
  · rintro h front back rfl hne
    have hback := h back ((List.mem_tails _ _).mpr (List.suffix_append front back))
    rwa [List.isEmpty_eq_false_iff.mpr hne, Bool.false_or] at hback
  · intro h t ht
    obtain ⟨front, hsplit⟩ := (List.mem_tails _ _).mp ht
    rw [Bool.or_eq_true, List.isEmpty_iff, or_iff_not_imp_left]
    exact h front t hsplit.symm

instance (v s : List Char) : Decidable (Avoids v s) :=
  decidable_of_iff _ avoids_iff

/-- A word that begins like no character of a text. -/
theorem avoids_of_chars {v : List Char} (h : ∀ y ∈ s, clash v [y] = true) : Avoids v s := by
  rintro front back rfl hne
  obtain ⟨y, back, rfl⟩ := List.exists_cons_of_ne_nil hne
  exact clash_append (h y (List.mem_append_right _ List.mem_cons_self)) back

/-- A word that avoids two texts avoids one behind the other. -/
theorem Avoids.append {v : List Char} (hs : Avoids v s) (ht : Avoids v t) : Avoids v (s ++ t) := by
  intro front back hsplit hne
  rcases List.append_eq_append_iff.mp hsplit with ⟨more, rfl, htail⟩ | ⟨more, hs', rfl⟩
  · exact ht more back htail hne
  · by_cases hmore : more = []
    · subst hmore
      exact ht [] t rfl hne
    · exact clash_append (hs front more hs' hmore) t

/-- A pattern of words fits nothing where all of them clash with the text. -/
theorem Reads.tryAt_none (hp : p.Reads (spelling words))
    (h : ∀ v ∈ words, clash v.toList c.rest = true) : p.tryAt c = none := by
  refine tryAt_eq_none_iff.mpr fun d hd => ?_
  obtain ⟨w, hw, rest, hc, -⟩ := (hp c d).mp hd
  obtain ⟨v, hv, hfolded⟩ := mem_spelling.mp hw
  have hclash := h v hv
  rw [hc, clash_of_mem_folded hfolded] at hclash
  cases hclash

/-- Words that a text avoids are not found in it. -/
theorem found_eq_false_of_avoids (hp : p.Reads (spelling words))
    (h : ∀ v ∈ words, v.toList ≠ [] ∧ Avoids v.toList s) :
    (boundary ++ p ++ boundary).found s = false := by
  rw [Bool.eq_false_iff, Ne, found_iff]
  rintro ⟨front, back, d, rfl, hd⟩
  obtain ⟨e, he, -⟩ := mem_offers_append.mp hd
  obtain ⟨f, hf, he⟩ := mem_offers_append.mp he
  obtain ⟨-, rfl⟩ := mem_offers_look.mp hf
  obtain ⟨w, hw, rest, hback, -⟩ := (hp _ _).mp he
  obtain ⟨v, hv, hfolded⟩ := mem_spelling.mp hw
  obtain ⟨hne, havoids⟩ := h v hv
  obtain rfl : back = w ++ rest := hback
  have hword : w ++ rest ≠ [] := by
    intro hnil
    obtain ⟨rfl, -⟩ := List.append_eq_nil_iff.mp hnil
    exact hne (List.forall₂_nil_right_iff.mp hfolded)
  have hclash := havoids front _ rfl hword
  rw [clash_of_mem_folded hfolded] at hclash
  cases hclash

end Adjudicator.Pattern
