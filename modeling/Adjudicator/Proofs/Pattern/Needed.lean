import Adjudicator.Proofs.Pattern.Groups
import Adjudicator.Text.Search
import Mathlib.Data.List.Infix

/-!
# Words that patterns need

A pattern needs a word when it leads on only in front of texts that hold the word. Main statement:
in a text without the word it finds nothing. That a word is not in a text is seen part by part: a
part with none of the word's characters parts the text.
-/

namespace Adjudicator

namespace Text

variable {w front middle back s : List Char} {x : Char}

/-- A word that begins in front of a character that it does not have ends there. -/
theorem prefix_of_prefix_append_cons (hx : x ∉ w) (h : w <+: front ++ x :: back) : w <+: front := by
  obtain ⟨t, ht⟩ := h
  rcases List.append_eq_append_iff.mp ht with ⟨more, rfl, -⟩ | ⟨more, rfl, hmore⟩
  · exact List.prefix_append w more
  · cases more with
    | nil => exact ⟨[], by rw [List.append_nil, List.append_nil]⟩
    | cons y more =>
      obtain rfl := (List.cons.inj hmore).1
      exact absurd (List.mem_append_right front List.mem_cons_self) hx

/-- A word does not reach over a character that it does not have. -/
theorem infix_or_of_infix_append_cons {c : Char} (hc : c ∉ w) (h : w <:+: front ++ c :: back) :
    w <:+: front ∨ w <:+: back := by
  have hstart {t : List Char} (ht : t <+: c :: back) (hsub : t ⊆ w) : t = [] := by
    rcases List.prefix_cons_iff.mp ht with rfl | ⟨t, rfl, _⟩
    · rfl
    · exact absurd (hsub List.mem_cons_self) hc
  rcases List.infix_append_iff.mp h with hfront | hrest | ⟨a, b, rfl, ha, hb⟩
  · exact .inl hfront
  · rcases List.infix_cons_iff.mp hrest with hbegins | hback
    · rw [hstart hbegins (List.Subset.refl w)]
      exact .inl List.nil_infix
    · exact .inr hback
  · rw [hstart hb (List.subset_append_right a b), List.append_nil]
    exact .inl ha.isInfix

/-- A word does not reach over characters that it does not have. -/
theorem infix_or_of_infix_append (hne : middle ≠ []) (hmiddle : ∀ c ∈ middle, c ∉ w)
    (h : w <:+: front ++ (middle ++ back)) : w <:+: front ∨ w <:+: back := by
  induction middle generalizing front with
  | nil => exact absurd rfl hne
  | cons c middle ih =>
    obtain ⟨hc, hmiddle⟩ := List.forall_mem_cons.mp hmiddle
    refine (infix_or_of_infix_append_cons hc h).elim .inl fun hrest => ?_
    cases middle with
    | nil => exact .inr hrest
    | cons d middle =>
      have hbehind : w <:+: [] ++ (d :: middle ++ back) := hrest
      refine (ih (List.cons_ne_nil d middle) hmiddle hbehind).imp_left fun hnil => ?_
      rw [List.infix_nil.mp hnil]
      exact List.nil_infix

/-- What a text contains stands in it. -/
theorem infix_of_contains (h : contains w s = true) : w <:+: s := by
  induction s with
  | nil => rw [List.isEmpty_iff.mp h]
  | cons c s ih =>
    rw [contains, Bool.or_eq_true, List.isPrefixOf_iff_prefix] at h
    rcases h with h | h
    · exact h.isInfix
    · exact (ih h).trans (List.suffix_cons c s).isInfix

/-- What stands in a text is contained in it. -/
theorem contains_of_infix (h : w <:+: s) : contains w s = true := by
  induction s with
  | nil => rw [contains, List.infix_nil.mp h, List.isEmpty_nil]
  | cons c s ih =>
    rw [contains, Bool.or_eq_true, List.isPrefixOf_iff_prefix]
    exact (List.infix_cons_iff.mp h).imp_right ih

/-- A search for a word tells whether it occurs in a text. -/
theorem contains_iff : contains w s = true ↔ w <:+: s :=
  ⟨infix_of_contains, contains_of_infix⟩

end Text

namespace Pattern

variable {p q : Pattern} {c d e : Cursor} {s w : List Char}

/-- Where a pattern leads on, a word stands in the text that follows. -/
def Needs (p : Pattern) (w : List Char) : Prop :=
  ∀ c d, d ∈ p.offers c → w <:+: c.rest

/-- A pattern needs what its first part needs. -/
theorem Needs.append (h : p.Needs w) : (p ++ q).Needs w := by
  intro c d hd
  obtain ⟨e, he, _⟩ := mem_offers_append.mp hd
  exact h c e he

/-- A pattern offers places further on in the text. -/
theorem suffix_of_mem_offers (h : d ∈ p.offers c) : d.rest <:+ c.rest := by
  induction p generalizing c d with
  | here => exact List.mem_singleton.mp h ▸ List.suffix_rfl
  | one accepts =>
    obtain ⟨x, rest, hc, -, rfl⟩ := mem_offers_one.mp h
    exact hc ▸ List.suffix_cons x rest
  | look holds => exact (mem_offers_look.mp h).2 ▸ List.suffix_rfl
  | seq first second ih ih' =>
    obtain ⟨e, he, hd⟩ := mem_offers_append.mp h
    exact (ih' hd).trans (ih he)
  | either first second ih ih' => exact (List.mem_append.mp h).elim ih ih'
  | many greedy body ih =>
    rw [offers] at h
    generalize c.rest.length = fuel at h
    induction fuel generalizing c with
    | zero => exact List.mem_singleton.mp h ▸ List.suffix_rfl
    | succ fuel ihfuel =>
      have hmore (h : d ∈ (body.offers c).flatMap fun e =>
          if c.index < e.index then repeated greedy body.offers fuel e else []) :
          d.rest <:+ c.rest := by
        obtain ⟨e, he, hd⟩ := List.mem_flatMap.mp h
        split at hd
        · exact (ihfuel hd).trans (ih he)
        · cases hd
      cases greedy with
      | true =>
        rcases List.mem_append.mp h with h | h
        · exact hmore h
        · exact List.mem_singleton.mp h ▸ List.suffix_rfl
      | false =>
        rcases List.mem_cons.mp h with rfl | h
        · exact List.suffix_rfl
        · exact hmore h
  | group number body ih =>
    obtain ⟨e, he, rfl⟩ := mem_offers_group.mp h
    have hsuffix : e.rest <:+ c.rest := ih he
    exact hsuffix

/-- A pattern needs what its second part needs. -/
theorem Needs.behind (h : q.Needs w) : (p ++ q).Needs w := by
  intro c d hd
  obtain ⟨e, he, hd⟩ := mem_offers_append.mp hd
  exact (h e d hd).trans (suffix_of_mem_offers he).isInfix

/-- A text needs itself. -/
theorem needs_text (word : String) : (text word).Needs word.toList := by
  intro c d hd
  obtain ⟨_, rfl, rest, hc, _⟩ := (reads_text word c d).mp hd
  rw [hc]
  exact (List.prefix_append _ rest).isInfix

/-- A text behind a border needs itself. -/
theorem needs_boundary (word : String) : (boundary ++ text word).Needs word.toList :=
  (needs_text word).behind

/-- Without a needed word nothing is found. -/
theorem Needs.find?_eq_none (h : p.Needs w) (hw : ¬w <:+: s) : p.find? s = none := by
  refine findFrom_eq_none fun d hd => tryAt_eq_none_iff.mpr fun e he => hw ?_
  exact (h d e he).trans hd.isInfix

/-! ## Leading on -/

section Lead

variable {β : Type} {accepts : Char → Bool} {next : Cursor → Option β} {answer : β}
  {taken rest : List Char}

/-- A text is its own first choice. -/
theorem tryAt_text {word : String} (hc : c.rest = word.toList ++ rest) :
    (text word).tryAt c = some (c.past word.toList rest) :=
  tryAt_chars hc

/-- A repetition of a class stays in front of any other character. -/
theorem offers_star_one_of_not (h : ∀ x ∈ c.rest.head?, accepts x = false) :
    (one accepts).star.offers c = [c] := by
  cases hc : c.rest with
  | nil => exact offers_star_one_nil hc
  | cons x rest =>
    rw [hc] at h
    rw [offers_star_one_cons hc, h x rfl]
    rfl

/-- In front of no character of its class a repetition takes nothing. -/
theorem tryAt_star_one_of_not (h : ∀ x ∈ c.rest.head?, accepts x = false) :
    (one accepts).star.tryAt c = some c := by
  rw [tryAt_eq_head?, offers_star_one_of_not h, List.head?_cons]

/-- A first choice from which the rest leads on is kept. -/
theorem run_of_tryAt (hp : p.tryAt c = some d) (h : next d = some answer) :
    p.run c next = some answer := by
  rw [tryAt_eq_head?] at hp
  obtain ⟨ds, hoffers⟩ := List.head?_eq_some_iff.mp hp
  rw [run_eq_findSome?_offers, hoffers, List.findSome?_cons, h]

/-- A lazy repetition of a class goes on as long as the rest does not lead on. -/
theorem run_starLazy_one (hc : c.rest = taken ++ rest) (htaken : ∀ x ∈ taken, accepts x = true)
    (hfewer : ∀ fewer more, taken = fewer ++ more → more ≠ [] →
      next (c.past fewer (more ++ rest)) = none)
    (h : next (c.past taken rest) = some answer) :
    (one accepts).starLazy.run c next = some answer := by
  rw [run_eq_findSome?_offers]
  induction taken generalizing c with
  | nil =>
    obtain rfl : c.rest = rest := hc
    have hoffers : ∃ more, (one accepts).starLazy.offers c = c :: more := by
      cases hs : c.rest with
      | nil => exact ⟨[], offers_starLazy_one_nil hs⟩
      | cons x s => exact ⟨_, offers_starLazy_one_cons hs⟩
    obtain ⟨more, hoffers⟩ := hoffers
    have hfirst : next c = some answer := h
    rw [hoffers, List.findSome?_cons, hfirst]
  | cons x taken ih =>
    obtain ⟨hx, htaken⟩ := List.forall_mem_cons.mp htaken
    have hfirst : next c = none := by
      have hnone := hfewer [] (x :: taken) rfl (List.cons_ne_nil _ _)
      rwa [← hc] at hnone
    have hcons : c.rest = x :: (taken ++ rest) := hc
    rw [offers_starLazy_one_cons hcons, if_pos hx, List.findSome?_cons, hfirst]
    refine ih rfl htaken (fun fewer more hsplit hmore => ?_) ?_
    · rw [Cursor.past_past]
      exact hfewer (x :: fewer) more (congrArg (x :: ·) hsplit) hmore
    · rw [Cursor.past_past]
      exact h

/-- As `run_starLazy_one`, with at least one character. -/
theorem run_plusLazy_one (hne : taken ≠ []) (hc : c.rest = taken ++ rest)
    (htaken : ∀ x ∈ taken, accepts x = true)
    (hfewer : ∀ fewer more, taken = fewer ++ more → more ≠ [] →
      next (c.past fewer (more ++ rest)) = none)
    (h : next (c.past taken rest) = some answer) :
    (one accepts).plusLazy.run c next = some answer := by
  obtain ⟨x, taken, rfl⟩ := List.exists_cons_of_ne_nil hne
  obtain ⟨hx, htaken⟩ := List.forall_mem_cons.mp htaken
  refine run_of_tryAt (p := one accepts) (tryAt_one hc hx) ?_
  refine run_starLazy_one rfl htaken (fun fewer more hsplit hmore => ?_) ?_
  · rw [Cursor.past_past]
    exact hfewer (x :: fewer) more (congrArg (x :: ·) hsplit) hmore
  · rw [Cursor.past_past]
    exact h

end Lead

end Pattern

end Adjudicator
