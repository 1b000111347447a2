import Adjudicator.Pattern.Build
import Adjudicator.Pattern.Search
import Mathlib.Data.List.Basic

/-!
# Offers of patterns

The cursors that a pattern offers, as a list in order of preference. Main statement: running a
pattern is searching its offers, so its first choice is the first of them. What a repetition of
one class of characters offers and chooses follows by induction on the text.
-/

namespace Adjudicator

/-- The cursor behind `taken`, in front of `rest`. -/
def Cursor.past (c : Cursor) (taken rest : List Char) : Cursor :=
  ⟨taken.getLast?.or c.prev, rest, c.index + taken.length, c.marks⟩

/-- Behind two parts of a text the cursor is behind their concatenation. -/
theorem Cursor.past_past (c : Cursor) (taken taken' middle rest : List Char) :
    (c.past taken middle).past taken' rest = c.past (taken ++ taken') rest := by
  simp only [past, List.getLast?_append, Option.or_assoc, List.length_append, Nat.add_assoc]

namespace Pattern

open Text

variable {β : Type}

/-- The cursors behind at most `fuel` iterations of a body. -/
def repeated (greedy : Bool) (body : Cursor → List Cursor) : Nat → Cursor → List Cursor
  | 0, c => [c]
  | fuel + 1, c =>
    let more := (body c).flatMap fun d =>
      if c.index < d.index then repeated greedy body fuel d else []
    if greedy then more ++ [c] else c :: more

/-- The cursors that a pattern offers, the preferred ones in front. -/
def offers : Pattern → Cursor → List Cursor
  | .here, c => [c]
  | .one accepts, c => (c.step? accepts).toList
  | .look holds, c => if holds c.prev c.rest then [c] else []
  | .seq first second, c => (first.offers c).flatMap second.offers
  | .either first second, c => first.offers c ++ second.offers c
  | .many greedy body, c => repeated greedy body.offers c.rest.length c
  | .group number body, c => (body.offers c).map fun d => d.mark number c.index

private theorem findSome?_flatMap {α γ : Type} (xs : List α) (f : α → List γ)
    (next : γ → Option β) :
    (xs.flatMap f).findSome? next = xs.findSome? fun x => (f x).findSome? next := by
  induction xs with
  | nil => rfl
  | cons x xs ih =>
    rw [List.flatMap_cons, List.findSome?_append, ih, List.findSome?_cons]
    cases (f x).findSome? next <;> rfl

private theorem findSome?_singleton {α : Type} (x : α) (next : α → Option β) :
    [x].findSome? next = next x := by
  rw [List.findSome?_cons]
  cases next x <;> rfl

private theorem iterate_eq_findSome? {run : Cursor → (Cursor → Option β) → Option β}
    {body : Cursor → List Cursor} (hbody : ∀ c next, run c next = (body c).findSome? next)
    (greedy : Bool) (next : Cursor → Option β) (fuel : Nat) (c : Cursor) :
    iterate greedy run next fuel c = (repeated greedy body fuel c).findSome? next := by
  induction fuel generalizing c with
  | zero => exact (findSome?_singleton c next).symm
  | succ fuel ih =>
    have hmore : (run c fun d =>
          if c.index < d.index then iterate greedy run next fuel d else none) =
        ((body c).flatMap fun d =>
          if c.index < d.index then repeated greedy body fuel d else []).findSome? next := by
      rw [hbody, findSome?_flatMap]
      congr 1
      funext d
      split
      · exact ih d
      · rfl
    rw [iterate, repeated, hmore]
    cases greedy with
    | true =>
      simp only [if_true, List.findSome?_append, findSome?_singleton]
      cases List.findSome? next _ <;> rfl
    | false =>
      simp only [Bool.false_eq_true, if_false, List.findSome?_cons]
      cases next c <;> rfl

/-- Running a pattern is searching its offers for one that is accepted. -/
theorem run_eq_findSome?_offers (p : Pattern) (c : Cursor) (next : Cursor → Option β) :
    p.run c next = (p.offers c).findSome? next := by
  induction p generalizing c next with
  | here => exact (findSome?_singleton c next).symm
  | one accepts =>
    rw [run, offers]
    cases c.step? accepts with
    | none => rfl
    | some d => exact (findSome?_singleton d next).symm
  | look holds =>
    rw [run, offers]
    split
    · exact (findSome?_singleton c next).symm
    · rfl
  | seq first second ih ih' =>
    rw [run, offers, ih, findSome?_flatMap]
    congr 1
    funext d
    exact ih' d next
  | either first second ih ih' =>
    rw [run, offers, ih, ih', List.findSome?_append]
    cases (first.offers c).findSome? next <;> rfl
  | many greedy body ih => exact iterate_eq_findSome? ih greedy next c.rest.length c
  | group number body ih =>
    rw [run, offers, ih, List.findSome?_map]
    rfl

/-- The first choice of a pattern is the first of its offers. -/
theorem tryAt_eq_head? (p : Pattern) (c : Cursor) : p.tryAt c = (p.offers c).head? := by
  rw [tryAt, run_eq_findSome?_offers]
  cases p.offers c <;> rfl

/-- A pattern has no first choice exactly when it offers nothing. -/
theorem tryAt_eq_none_iff {p : Pattern} {c : Cursor} :
    p.tryAt c = none ↔ ∀ d, d ∉ p.offers c := by
  rw [tryAt_eq_head?, List.head?_eq_none_iff, List.eq_nil_iff_forall_not_mem]

/-- What a pattern offers alone is its first choice. -/
theorem tryAt_eq_some {p : Pattern} {c d : Cursor} (hd : d ∈ p.offers c)
    (h : ∀ e ∈ p.offers c, e = d) : p.tryAt c = some d := by
  obtain ⟨e, rest, hoffers⟩ := List.exists_cons_of_ne_nil (List.ne_nil_of_mem hd)
  have he : e ∈ p.offers c := by
    rw [hoffers]
    exact List.mem_cons_self
  rw [tryAt_eq_head?, hoffers, List.head?_cons, h e he]

/-! ## What is offered -/

section Offers

variable {p q : Pattern} {c d : Cursor} {accepts : Char → Bool} {x : Char} {rest : List Char}

/-- Two patterns in a row offer what the second one does behind the first. -/
theorem mem_offers_append : d ∈ (p ++ q).offers c ↔ ∃ e ∈ p.offers c, d ∈ q.offers e :=
  List.mem_flatMap

/-- An optional pattern also offers the place where it begins. -/
theorem mem_offers_opt : d ∈ p.opt.offers c ↔ d ∈ p.offers c ∨ d = c := by
  rw [opt, offers, offers, List.mem_append, List.mem_singleton]

/-- A group offers what its body does, and records it. -/
theorem mem_offers_group {number : Nat} :
    d ∈ (group number p).offers c ↔ ∃ e ∈ p.offers c, e.mark number c.index = d :=
  List.mem_map

/-- A look around offers the place itself, where its condition holds. -/
theorem mem_offers_look {holds : Option Char → List Char → Bool} :
    d ∈ (look holds).offers c ↔ holds c.prev c.rest = true ∧ d = c := by
  rw [offers]
  split
  next h => rw [List.mem_singleton, and_iff_right h]
  next h => exact iff_of_false List.not_mem_nil fun hd => h hd.1

/-- A pattern of one character offers the place behind a character of its class. -/
theorem mem_offers_one :
    d ∈ (one accepts).offers c ↔
      ∃ x rest, c.rest = x :: rest ∧ accepts x = true ∧ d = c.past [x] rest := by
  rw [offers, Option.mem_toList, Cursor.step?]
  cases c.rest with
  | nil => simp
  | cons y rest =>
    simp only [Option.ite_none_right_eq_some, Option.some.injEq, List.cons.injEq]
    constructor
    · rintro ⟨hy, rfl⟩
      exact ⟨y, rest, ⟨rfl, rfl⟩, hy, rfl⟩
    · rintro ⟨_, _, ⟨rfl, rfl⟩, hy, rfl⟩
      exact ⟨hy, rfl⟩

/-- In front of a given character a pattern of one character offers the place behind it, or none. -/
theorem offers_one_cons (h : c.rest = x :: rest) :
    (one accepts).offers c = if accepts x then [c.past [x] rest] else [] := by
  simp only [offers, Cursor.step?, h]
  split <;> rfl

/-- A repetition of a class offers to take another character and then to take none. -/
theorem offers_star_one_cons (h : c.rest = x :: rest) :
    (one accepts).star.offers c =
      (if accepts x then (one accepts).star.offers (c.past [x] rest) else []) ++ [c] := by
  have hindex : c.index < (c.past [x] rest).index := Nat.lt_succ_self c.index
  rw [star, offers, h, List.length_cons, repeated, offers_one_cons h]
  cases accepts x with
  | true =>
    simp only [if_true, List.flatMap_cons, List.flatMap_nil, List.append_nil, hindex]
    rfl
  | false => rfl

/-- At the end of a text a repetition offers this place only. -/
theorem offers_star_one_nil (h : c.rest = []) : (one accepts).star.offers c = [c] := by
  rw [star, offers, h]
  rfl

/-- A repetition of a class offers the places behind characters of the class. -/
theorem mem_offers_star_one :
    d ∈ (one accepts).star.offers c ↔
      ∃ taken rest, c.rest = taken ++ rest ∧ (∀ x ∈ taken, accepts x = true) ∧
        d = c.past taken rest := by
  obtain ⟨prev, s, index, marks⟩ := c
  induction s generalizing prev index with
  | nil =>
    rw [offers_star_one_nil rfl, List.mem_singleton]
    constructor
    · rintro rfl
      exact ⟨[], [], rfl, nofun, rfl⟩
    · rintro ⟨taken, rest, hsplit, _, rfl⟩
      obtain ⟨rfl, rfl⟩ := List.append_eq_nil_iff.mp hsplit.symm
      rfl
  | cons x s ih =>
    rw [offers_star_one_cons rfl, List.mem_append, List.mem_singleton]
    constructor
    · rintro (hd | rfl)
      · split at hd
        next hx =>
          obtain ⟨taken, rest, hsplit, hall, rfl⟩ := ih _ _ |>.mp hd
          refine ⟨x :: taken, rest, congrArg (x :: ·) hsplit, ?_, ?_⟩
          · exact List.forall_mem_cons.mpr ⟨hx, hall⟩
          · exact Cursor.past_past ⟨prev, x :: s, index, marks⟩ [x] taken s rest
        next => cases hd
      · exact ⟨[], x :: s, rfl, nofun, rfl⟩
    · rintro ⟨taken, rest, hsplit, hall, rfl⟩
      cases taken with
      | nil =>
        cases hsplit
        exact .inr rfl
      | cons y taken =>
        obtain ⟨rfl, rfl⟩ := List.cons.inj hsplit
        obtain ⟨hx, hall⟩ := List.forall_mem_cons.mp hall
        refine .inl ?_
        rw [if_pos hx]
        exact (ih _ _).mpr ⟨taken, rest, rfl, hall,
          (Cursor.past_past ⟨prev, x :: (taken ++ rest), index, marks⟩ [x] taken _ rest).symm⟩

/-- As `mem_offers_star_one`, with at least one character. -/
theorem mem_offers_plus_one :
    d ∈ (one accepts).plus.offers c ↔
      ∃ taken rest, taken ≠ [] ∧ c.rest = taken ++ rest ∧ (∀ x ∈ taken, accepts x = true) ∧
        d = c.past taken rest := by
  simp only [plus, mem_offers_append, mem_offers_one, mem_offers_star_one]
  constructor
  · rintro ⟨_, ⟨x, s, hc, hx, rfl⟩, taken, rest, rfl, hall, rfl⟩
    exact ⟨x :: taken, rest, List.cons_ne_nil _ _, hc, List.forall_mem_cons.mpr ⟨hx, hall⟩,
      c.past_past [x] taken _ rest⟩
  · rintro ⟨_ | ⟨x, taken⟩, rest, hne, hc, hall, rfl⟩
    · exact absurd rfl hne
    · obtain ⟨hx, hall⟩ := List.forall_mem_cons.mp hall
      exact ⟨_, ⟨x, taken ++ rest, hc, hx, rfl⟩, taken, rest, rfl, hall,
        (c.past_past [x] taken _ rest).symm⟩

/-- A fresh start is the start of the text or takes a character that belongs to no number. -/
theorem mem_offers_freshStart :
    d ∈ freshStart.offers c ↔
      (c.prev = none ∧ d = c) ∨
        ∃ y rest, c.rest = y :: rest ∧ (isWord y || y == '.') = false ∧ d = c.past [y] rest := by
  rw [freshStart, offers, List.mem_append, textStart, mem_offers_look, mem_offers_one,
    Option.isNone_iff_eq_none]
  simp only [Bool.not_eq_true']

end Offers

/-! ## First choices -/

section Choices

variable {p q : Pattern} {c d e : Cursor} {accepts : Char → Bool} {x : Char} {rest : List Char}

/-- The first choices of two patterns in a row make the first choice of both. -/
theorem tryAt_append (hp : p.tryAt c = some d) (hq : q.tryAt d = some e) :
    (p ++ q).tryAt c = some e := by
  rw [tryAt_eq_head?] at hp hq
  obtain ⟨ds, hp⟩ := List.head?_eq_some_iff.mp hp
  obtain ⟨es, hq⟩ := List.head?_eq_some_iff.mp hq
  have hoffers : (p ++ q).offers c = (p.offers c).flatMap q.offers := rfl
  rw [tryAt_eq_head?, hoffers, hp, List.flatMap_cons, hq]
  rfl

/-- A first choice goes on from one of the offers of the first pattern. -/
theorem exists_of_tryAt_append (h : (p ++ q).tryAt c = some d) :
    ∃ e ∈ p.offers c, q.tryAt e = some d := by
  have hrun : (p.offers c).findSome? q.tryAt = some d := by
    rw [← run_eq_findSome?_offers]
    exact h
  exact List.exists_of_findSome?_eq_some hrun

/-- The first choice of alternatives is that of the left one. -/
theorem tryAt_either_left (hp : p.tryAt c = some d) : (either p q).tryAt c = some d := by
  rw [tryAt_eq_head?] at hp
  rw [tryAt_eq_head?, offers, List.head?_append, hp]
  rfl

/-- Where the left one offers nothing it is that of the right one. -/
theorem tryAt_either_right (hp : p.tryAt c = none) : (either p q).tryAt c = q.tryAt c := by
  rw [tryAt_eq_head?] at hp
  rw [tryAt_eq_head?, offers, List.head?_append, hp, tryAt_eq_head?]
  rfl

/-- The first choice of an optional pattern is that of the pattern. -/
theorem tryAt_opt_some (hp : p.tryAt c = some d) : p.opt.tryAt c = some d :=
  tryAt_either_left hp

/-- Where the pattern offers nothing it is the place itself. -/
theorem tryAt_opt_none (hp : p.tryAt c = none) : p.opt.tryAt c = some c :=
  tryAt_either_right hp

/-- The first choice of a group is that of its body, with the group recorded. -/
theorem tryAt_group (number : Nat) (hp : p.tryAt c = some d) :
    (group number p).tryAt c = some (d.mark number c.index) := by
  rw [tryAt_eq_head?] at hp
  rw [tryAt_eq_head?, offers, List.head?_map, hp]
  rfl

/-- A look around stays in place where its condition holds. -/
theorem tryAt_look {holds : Option Char → List Char → Bool} (h : holds c.prev c.rest = true) :
    (look holds).tryAt c = some c := by
  rw [tryAt_eq_head?, offers, if_pos h]
  rfl

/-- A look around leads nowhere where its condition does not hold. -/
theorem tryAt_look_none {holds : Option Char → List Char → Bool}
    (h : holds c.prev c.rest = false) : (look holds).tryAt c = none := by
  rw [tryAt_eq_head?, offers, h]
  rfl

/-- One character of the class is taken. -/
theorem tryAt_one (h : c.rest = x :: rest) (hx : accepts x = true) :
    (one accepts).tryAt c = some (c.past [x] rest) := by
  rw [tryAt_eq_head?, offers_one_cons h, if_pos hx]
  rfl

/-- Nothing but a character of the class can be taken. -/
theorem tryAt_one_none (h : ∀ x ∈ c.rest.head?, accepts x = false) :
    (one accepts).tryAt c = none := by
  rw [tryAt_eq_none_iff]
  intro d hd
  obtain ⟨x, rest, hc, hx, _⟩ := mem_offers_one.mp hd
  rw [h x (by rw [hc]; rfl)] at hx
  cases hx

/-- Where the first of two patterns leads nowhere, both lead nowhere. -/
theorem tryAt_append_none (hp : p.tryAt c = none) : (p ++ q).tryAt c = none := by
  rw [tryAt_eq_none_iff] at hp ⊢
  intro d hd
  obtain ⟨e, he, _⟩ := mem_offers_append.mp hd
  exact hp e he

/-- A repetition of a class chooses all characters of the class that follow. -/
theorem tryAt_star_one {taken : List Char} (h : c.rest = taken ++ rest)
    (htaken : ∀ x ∈ taken, accepts x = true) (hrest : ∀ x ∈ rest.head?, accepts x = false) :
    (one accepts).star.tryAt c = some (c.past taken rest) := by
  rw [tryAt_eq_head?]
  induction taken generalizing c with
  | nil =>
    obtain rfl : c.rest = rest := h
    have hc : c.past [] c.rest = c := rfl
    rw [hc]
    cases hs : c.rest with
    | nil =>
      rw [offers_star_one_nil hs]
      rfl
    | cons x rest =>
      rw [hs] at hrest
      rw [offers_star_one_cons hs, hrest x rfl]
      rfl
  | cons x taken ih =>
    obtain ⟨hx, htaken⟩ := List.forall_mem_cons.mp htaken
    have hmore := ih (c := c.past [x] (taken ++ rest)) rfl htaken
    have hcons : c.rest = x :: (taken ++ rest) := h
    rw [offers_star_one_cons hcons, if_pos hx, List.head?_append, hmore, Cursor.past_past]
    rfl

/-- As `tryAt_star_one`, with at least one character. -/
theorem tryAt_plus_one {taken : List Char} (hne : taken ≠ []) (h : c.rest = taken ++ rest)
    (htaken : ∀ x ∈ taken, accepts x = true) (hrest : ∀ x ∈ rest.head?, accepts x = false) :
    (one accepts).plus.tryAt c = some (c.past taken rest) := by
  obtain ⟨x, taken, rfl⟩ := List.exists_cons_of_ne_nil hne
  obtain ⟨hx, htaken⟩ := List.forall_mem_cons.mp htaken
  have hmore := tryAt_star_one (c := c.past [x] (taken ++ rest)) rfl htaken hrest
  rw [Cursor.past_past] at hmore
  exact tryAt_append (tryAt_one h hx) hmore

end Choices

/-! ## Matches -/

section Matches

variable {p : Pattern} {subject : List Char} {last : Option Nat} {prev : Option Char} {index : Nat}

private theorem getLast?_or_cons (x : Char) (w : List Char) (prev : Option Char) :
    (x :: w).getLast?.or prev = w.getLast?.or (some x) := by
  rw [List.getLast?_cons]
  cases w.getLast? <;> rfl

/-- A first choice at the start of a text is the first match. -/
theorem find?_of_tryAt {s : List Char} {d : Cursor} (h : p.tryAt (.start s) = some d) :
    p.find? s = some ⟨s, 0, d.index, d.marks⟩ := by
  cases s with
  | nil =>
    rw [find?, findFrom, show p.tryAt ⟨none, [], 0, []⟩ = some d from h]
    rfl
  | cons x s => rw [find?, findFrom, show p.tryAt ⟨none, x :: s, 0, []⟩ = some d from h]

/-- A text where a pattern offers nothing anywhere has no match. -/
theorem findFrom_eq_none {s : List Char} (h : ∀ d : Cursor, d.rest <:+ s → p.tryAt d = none) :
    p.findFrom subject prev index s = none := by
  induction s generalizing prev index with
  | nil => rw [findFrom, h _ List.suffix_rfl, Option.map_none]
  | cons x s ih =>
    rw [findFrom, h _ List.suffix_rfl]
    exact ih fun d hd => h d (hd.trans (List.suffix_cons x s))

/-- Nothing is found in a stretch where a pattern offers nothing. -/
theorem findAllFrom_append {w rest : List Char}
    (h : ∀ front x back, w = front ++ x :: back →
      p.tryAt ⟨front.getLast?.or prev, x :: back ++ rest, index + front.length, []⟩ = none) :
    p.findAllFrom subject last 0 prev index (w ++ rest) =
      p.findAllFrom subject last 0 (w.getLast?.or prev) (index + w.length) rest := by
  induction w generalizing prev index with
  | nil => rfl
  | cons x w ih =>
    have hfirst : p.tryAt ⟨prev, x :: (w ++ rest), index, []⟩ = none := h [] x w rfl
    have hrest : ∀ front y back, w = front ++ y :: back →
        p.tryAt ⟨front.getLast?.or (some x), y :: back ++ rest, index + 1 + front.length, []⟩ =
          none := by
      intro front y back hw
      have hnext := h (x :: front) y back (congrArg (x :: ·) hw)
      rwa [getLast?_or_cons, List.length_cons, Nat.add_comm front.length, ← Nat.add_assoc] at hnext
    rw [List.cons_append, findAllFrom, hfirst, getLast?_or_cons, List.length_cons,
      Nat.add_comm w.length, ← Nat.add_assoc]
    exact ih hrest

/-- The characters of a match are passed over. -/
theorem findAllFrom_skip (w rest : List Char) :
    p.findAllFrom subject last w.length prev index (w ++ rest) =
      p.findAllFrom subject last 0 (w.getLast?.or prev) (index + w.length) rest := by
  induction w generalizing prev index with
  | nil => rfl
  | cons x w ih =>
    rw [List.cons_append, List.length_cons, findAllFrom, ih, getLast?_or_cons,
      Nat.add_comm w.length, ← Nat.add_assoc]

/-- A search ends at the end of a text where the pattern leads nowhere. -/
theorem findAllFrom_nil_none (h : p.tryAt ⟨prev, [], index, []⟩ = none) :
    p.findAllFrom subject last 0 prev index [] = [] := by
  simp only [findAllFrom, h]

/-- Where the pattern leads nowhere a search goes on with the next character. -/
theorem findAllFrom_cons_none {x : Char} {rest : List Char}
    (h : p.tryAt ⟨prev, x :: rest, index, []⟩ = none) :
    p.findAllFrom subject last 0 prev index (x :: rest) =
      p.findAllFrom subject last 0 (some x) (index + 1) rest := by
  rw [findAllFrom, h]

/-- A match that is not empty is passed over. -/
theorem findAllFrom_cons_some {x : Char} {taken rest : List Char} {d : Cursor}
    (h : p.tryAt ⟨prev, x :: (taken ++ rest), index, []⟩ = some d)
    (hd : d.index = index + 1 + taken.length) :
    p.findAllFrom subject last 0 prev index (x :: (taken ++ rest)) =
      ⟨subject, index, d.index, d.marks⟩ ::
        p.findAllFrom subject (some d.index) 0 (taken.getLast?.or (some x)) d.index rest := by
  have hne : ¬(d.index = index ∧ last = some index) := by omega
  have hskip : d.index - index - 1 = taken.length := by omega
  simp only [findAllFrom, h, if_neg hne, hskip, findAllFrom_skip, ← hd]

/-- A first choice at the start of a text that is not empty is the first of all matches. -/
theorem exists_findAll_cons {x : Char} {s taken rest : List Char} {d : Cursor}
    (hs : s = x :: (taken ++ rest)) (h : p.tryAt (.start s) = some d)
    (hd : d.index = 1 + taken.length) :
    ∃ ms, p.findAll s = ⟨s, 0, d.index, d.marks⟩ :: ms := by
  subst hs
  have hindex : d.index = 0 + 1 + taken.length := by omega
  exact ⟨_, findAllFrom_cons_some h hindex⟩

/-- The text of a group that a match records as its only one. -/
theorem group_eq (front taken back : List Char) {start stop number : Nat} :
    (⟨front ++ (taken ++ back), start, stop,
      [(number, front.length, front.length + taken.length)]⟩ : Match).group number = taken := by
  rw [Match.group, Match.group?, Match.span?, List.lookup_cons_self, Option.map_some,
    Option.getD_some]
  dsimp only
  rw [List.drop_left, Nat.add_sub_cancel_left, List.take_left]

end Matches

end Pattern

end Adjudicator
