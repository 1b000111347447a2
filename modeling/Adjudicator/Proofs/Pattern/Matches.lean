import Adjudicator.Proofs.Pattern.Offers
import Mathlib.Algebra.BigOperators.Ring.List
import Mathlib.Computability.Language

/-!
# Matches of patterns

What a search finds is the first choice of the pattern at some place of the text, and where it
finds nothing the pattern offers nothing anywhere. When no match reaches over a place of the text,
the matches in front of it and those behind it are found apart. A pattern without groups and
conditions reads a language: it offers the places behind the words of the language. Main statement:
a pattern of words between two borders is found exactly where one of the words stands on its own.
-/

/-- The languages of texts. -/
abbrev CharLanguage := Language Char

namespace Adjudicator

namespace Cursor

/-- The place between two parts of a text. -/
def between (front back : List Char) : Cursor :=
  ⟨front.getLast?, back, front.length, []⟩

/-- Behind a part of a text the place is between this part and the rest. -/
theorem past_between (front taken rest : List Char) :
    (between front (taken ++ rest)).past taken rest = between (front ++ taken) rest := by
  simp only [past, between, List.getLast?_append, List.length_append]

end Cursor

namespace Pattern

open Text Cursor

variable {p q : Pattern} {c d : Cursor} {s : List Char} {m : Match}

/-- The first choice is one of those that are offered. -/
theorem tryAt_mem_offers (h : p.tryAt c = some d) : d ∈ p.offers c := by
  rw [tryAt_eq_head?] at h
  exact List.mem_of_head? h

/-! ## Searches -/

section Searches

variable {last : Option Nat} {skip : Nat} {done : List Char} {x : Char}

/-- The first choice of a pattern between two parts of a text is this match. -/
def Fits (p : Pattern) (s : List Char) (m : Match) : Prop :=
  ∃ front back d, s = front ++ back ∧ p.tryAt (between front back) = some d ∧
    m = ⟨s, front.length, d.index, d.marks⟩

private theorem length_append_one (done : List Char) (x : Char) :
    (done ++ [x]).length = done.length + 1 :=
  List.length_append

private theorem fits_of_findFrom (done : List Char)
    (h : p.findFrom (done ++ s) done.getLast? done.length s = some m) : p.Fits (done ++ s) m := by
  induction s generalizing done with
  | nil =>
    rw [findFrom] at h
    obtain ⟨d, hd, rfl⟩ := Option.map_eq_some_iff.mp h
    exact ⟨done, [], d, rfl, hd, rfl⟩
  | cons x s ih =>
    rw [findFrom] at h
    split at h
    next d hd => exact ⟨done, x :: s, d, rfl, hd, (Option.some.inj h).symm⟩
    next =>
      rw [List.append_cons, ← List.getLast?_concat (l := done) (a := x),
        ← length_append_one done x] at h
      rw [List.append_cons]
      exact ih _ h

private theorem tryAt_of_findFrom_none (done : List Char) {front back : List Char}
    (h : p.findFrom (done ++ s) done.getLast? done.length s = none)
    (hsplit : s = front ++ back) : p.tryAt (between (done ++ front) back) = none := by
  induction s generalizing done front with
  | nil =>
    rw [findFrom] at h
    obtain ⟨rfl, rfl⟩ := List.append_eq_nil_iff.mp hsplit.symm
    rw [List.append_nil]
    exact Option.map_eq_none_iff.mp h
  | cons x s ih =>
    rw [findFrom] at h
    split at h
    next => cases h
    next hnone =>
      cases front with
      | nil =>
        obtain rfl : x :: s = back := hsplit
        rw [List.append_nil]
        exact hnone
      | cons y front =>
        obtain ⟨rfl, htail⟩ := List.cons.inj hsplit
        rw [List.append_cons, ← List.getLast?_concat (l := done) (a := x),
        ← length_append_one done x] at h
        rw [List.append_cons]
        exact ih _ h htail

/-- What is found fits. -/
theorem find?_fits (h : p.find? s = some m) : p.Fits s m :=
  fits_of_findFrom [] h

/-- Where nothing is found nothing is offered. -/
theorem found_iff : p.found s = true ↔
    ∃ front back d, s = front ++ back ∧ d ∈ p.offers (between front back) := by
  rw [found]
  constructor
  · intro h
    obtain ⟨m, hm⟩ := Option.isSome_iff_exists.mp h
    obtain ⟨front, back, d, hsplit, hd, _⟩ := find?_fits hm
    exact ⟨front, back, d, hsplit, tryAt_mem_offers hd⟩
  · rintro ⟨front, back, d, hsplit, hd⟩
    cases h : p.find? s with
    | some m => rfl
    | none => exact absurd hd (tryAt_eq_none_iff.mp (tryAt_of_findFrom_none [] h hsplit) d)

private theorem fits_of_mem_findAllFrom (done : List Char)
    (h : m ∈ p.findAllFrom (done ++ s) last skip done.getLast? done.length s) :
    p.Fits (done ++ s) m := by
  induction s generalizing done last skip with
  | nil =>
    unfold findAllFrom at h
    split at h
    next d hd =>
      split at h
      · cases h
      · exact ⟨done, [], d, rfl, hd, List.mem_singleton.mp h⟩
    next => cases h
  | cons x s ih =>
    have hgo : ∀ {last skip},
        m ∈ p.findAllFrom (done ++ x :: s) last skip (some x) (done.length + 1) s →
          p.Fits (done ++ x :: s) m := by
      intro last skip h
      rw [List.append_cons, ← List.getLast?_concat (l := done) (a := x),
        ← length_append_one done x] at h
      rw [List.append_cons]
      exact ih _ h
    unfold findAllFrom at h
    split at h
    next => exact hgo h
    next =>
      split at h
      next => exact hgo h
      next d hd =>
        split at h
        next => exact hgo h
        next =>
          rcases List.mem_cons.mp h with rfl | h
          · exact ⟨done, x :: s, d, rfl, hd, rfl⟩
          · exact hgo h

/-- Every match fits. -/
theorem fits_of_mem_findAll (h : m ∈ p.findAll s) : p.Fits s m :=
  fits_of_mem_findAllFrom [] h

variable {w rest : List Char}

private theorem findAllFrom_split (done : List Char) (last : Option Nat) (hskip : skip ≤ w.length)
    (hcross : ∀ m, p.Fits (done ++ (w ++ rest)) m → m.start < (done ++ w).length →
      m.stop ≤ (done ++ w).length) :
    ∃ inner last', p.findAllFrom (done ++ (w ++ rest)) last skip done.getLast? done.length
        (w ++ rest) =
      inner ++ p.findAllFrom (done ++ (w ++ rest)) last' 0 (done ++ w).getLast? (done ++ w).length
        rest ∧
      ∀ m ∈ inner, p.Fits (done ++ (w ++ rest)) m ∧ m.start < (done ++ w).length := by
  induction w generalizing done last skip with
  | nil =>
    obtain rfl : skip = 0 := Nat.le_zero.mp hskip
    rw [List.append_nil]
    exact ⟨[], last, rfl, nofun⟩
  | cons x w ih =>
    have hmoved : done ++ (x :: w ++ rest) = done ++ [x] ++ (w ++ rest) := List.append_cons ..
    have hcons : done ++ x :: w = done ++ [x] ++ w := List.append_cons ..
    have hgo (last : Option Nat) {skip : Nat} (hskip : skip ≤ w.length) :
        ∃ inner last', p.findAllFrom (done ++ (x :: w ++ rest)) last skip (some x)
            (done.length + 1) (w ++ rest) =
          inner ++ p.findAllFrom (done ++ (x :: w ++ rest)) last' 0 (done ++ x :: w).getLast?
            (done ++ x :: w).length rest ∧
          ∀ m ∈ inner, p.Fits (done ++ (x :: w ++ rest)) m ∧
            m.start < (done ++ x :: w).length := by
      rw [hmoved, hcons] at hcross ⊢
      have h := ih (done ++ [x]) last hskip hcross
      rwa [List.getLast?_concat, length_append_one done x] at h
    rw [List.cons_append]
    cases skip with
    | succ skip =>
      rw [List.length_cons] at hskip
      exact hgo last (by omega)
    | zero =>
      rw [findAllFrom]
      split
      next => exact hgo last (Nat.zero_le _)
      next d hd =>
        split
        next => exact hgo last (Nat.zero_le _)
        next =>
          have hfits : p.Fits (done ++ (x :: w ++ rest))
              ⟨done ++ (x :: w ++ rest), done.length, d.index, d.marks⟩ :=
            ⟨done, x :: w ++ rest, d, rfl, hd, rfl⟩
          have hstart : done.length < (done ++ x :: w).length := by simp
          have hstop := hcross _ hfits hstart
          rw [List.length_append, List.length_cons] at hstop
          dsimp only at hstop
          have hskip : d.index - done.length - 1 ≤ w.length := by omega
          obtain ⟨inner, last', hinner, hmem⟩ := hgo (some d.index) hskip
          exact ⟨_ :: inner, last', congrArg (_ :: ·) hinner,
            List.forall_mem_cons.mpr ⟨⟨hfits, hstart⟩, hmem⟩⟩

/-- When no match reaches over the end of a text's first part, the matches that start there come
first, and the search goes on at the second part. -/
theorem findAll_append
    (hcross : ∀ m, p.Fits (w ++ rest) m → m.start < w.length → m.stop ≤ w.length) :
    ∃ inner last, p.findAll (w ++ rest) =
        inner ++ p.findAllFrom (w ++ rest) last 0 w.getLast? w.length rest ∧
      ∀ m ∈ inner, p.Fits (w ++ rest) m ∧ m.start < w.length :=
  findAllFrom_split [] none (Nat.zero_le _) hcross

private theorem findFrom_behind (done : List Char) {front back : List Char}
    (hfront : ∀ f b, front = f ++ b → b ≠ [] → p.tryAt (between (done ++ f) (b ++ back)) = none)
    (h : p.tryAt (between (done ++ front) back) = some d) :
    p.findFrom s done.getLast? done.length (front ++ back) =
      some ⟨s, (done ++ front).length, d.index, d.marks⟩ := by
  induction front generalizing done with
  | nil =>
    rw [List.append_nil] at h ⊢
    cases back with
    | nil =>
      have hd : p.tryAt ⟨done.getLast?, [], done.length, []⟩ = some d := h
      rw [List.append_nil, findFrom, hd, Option.map_some]
    | cons x back =>
      have hd : p.tryAt ⟨done.getLast?, x :: back, done.length, []⟩ = some d := h
      rw [List.nil_append, findFrom, hd]
  | cons x front ih =>
    have hnone : p.tryAt ⟨done.getLast?, x :: (front ++ back), done.length, []⟩ = none := by
      have hfirst := hfront [] (x :: front) rfl (List.cons_ne_nil _ _)
      rwa [List.append_nil] at hfirst
    have hcons : done ++ x :: front = done ++ [x] ++ front := List.append_cons ..
    rw [hcons] at h ⊢
    rw [List.cons_append, findFrom, hnone]
    dsimp only
    have hrest := ih (done ++ [x]) (fun f b hsplit hne => ?_) h
    · rwa [List.getLast?_concat, length_append_one done x] at hrest
    · have hnext := hfront (x :: f) b (congrArg (x :: ·) hsplit) hne
      rwa [List.append_cons] at hnext

/-- The first place of a text where a pattern leads on is its first match. -/
theorem find?_of_between {front back : List Char}
    (hfront : ∀ f b, front = f ++ b → b ≠ [] → p.tryAt (between f (b ++ back)) = none)
    (h : p.tryAt (between front back) = some d) :
    p.find? (front ++ back) = some ⟨front ++ back, front.length, d.index, d.marks⟩ :=
  findFrom_behind [] hfront h

/-- A search for all matches begins with the first one. -/
theorem head?_findAll (p : Pattern) (s : List Char) : (p.findAll s).head? = p.find? s := by
  have key (subject : List Char) (prev : Option Char) (index : Nat) (s : List Char) :
      (p.findAllFrom subject none 0 prev index s).head? = p.findFrom subject prev index s := by
    induction s generalizing prev index with
    | nil => cases h : p.tryAt ⟨prev, [], index, []⟩ <;> simp [findAllFrom, findFrom, h]
    | cons x s ih =>
      cases h : p.tryAt ⟨prev, x :: s, index, []⟩ <;> simp [findAllFrom, findFrom, h, ih]
  exact key s none 0 s

end Searches

/-! ## Languages -/

/-- A pattern reads a language: it offers the places behind the words of the language. -/
def Reads (p : Pattern) (L : CharLanguage) : Prop :=
  ∀ c d, d ∈ p.offers c ↔ ∃ taken ∈ L, ∃ rest, c.rest = taken ++ rest ∧ d = c.past taken rest

section Languages

variable {L M : CharLanguage} {accepts : Char → Bool}

/-- The words of one character of a class. -/
def single (accepts : Char → Bool) : CharLanguage :=
  {t | ∃ x, accepts x = true ∧ t = [x]}

/-- The words of characters of a class. -/
def several (accepts : Char → Bool) : CharLanguage :=
  {t | ∀ x ∈ t, accepts x = true}

/-- The empty pattern reads the empty word. -/
theorem reads_here : here.Reads 1 := by
  intro c d
  rw [offers, List.mem_singleton]
  constructor
  · rintro rfl
    exact ⟨[], rfl, d.rest, rfl, rfl⟩
  · rintro ⟨_, rfl, rest, hrest, rfl⟩
    obtain rfl : c.rest = rest := hrest
    rfl

/-- A pattern of one character reads the characters of its class. -/
theorem reads_one : (one accepts).Reads (single accepts) := by
  intro c d
  rw [mem_offers_one]
  constructor
  · rintro ⟨x, rest, hc, hx, rfl⟩
    exact ⟨[x], ⟨x, hx, rfl⟩, rest, hc, rfl⟩
  · rintro ⟨_, ⟨x, hx, rfl⟩, rest, hc, rfl⟩
    exact ⟨x, rest, hc, hx, rfl⟩

/-- Its repetition reads the words over the class. -/
theorem reads_star_one : (one accepts).star.Reads (several accepts) := by
  intro c d
  rw [mem_offers_star_one]
  constructor
  · rintro ⟨taken, rest, hc, htaken, rfl⟩
    exact ⟨taken, htaken, rest, hc, rfl⟩
  · rintro ⟨taken, htaken, rest, hc, rfl⟩
    exact ⟨taken, rest, hc, htaken, rfl⟩

/-- Two patterns in a row read the concatenated words. -/
theorem reads_append (hp : p.Reads L) (hq : q.Reads M) : (p ++ q).Reads (L * M) := by
  intro c d
  simp only [mem_offers_append, hp c, hq _, Language.mem_mul]
  constructor
  · rintro ⟨_, ⟨a, ha, rest, hc, rfl⟩, b, hb, rest', hrest, rfl⟩
    obtain rfl : rest = b ++ rest' := hrest
    exact ⟨a ++ b, ⟨a, ha, b, hb, rfl⟩, rest', by rw [hc, List.append_assoc], c.past_past a b _ _⟩
  · rintro ⟨_, ⟨a, ha, b, hb, rfl⟩, rest, hc, rfl⟩
    refine ⟨c.past a (b ++ rest), ⟨a, ha, b ++ rest, ?_, rfl⟩, b, hb, rest, rfl, ?_⟩
    · rw [hc, List.append_assoc]
    · rw [c.past_past]

/-- Two patterns as alternatives read the words of both. -/
theorem reads_either (hp : p.Reads L) (hq : q.Reads M) : (either p q).Reads (L + M) := by
  intro c d
  rw [offers, List.mem_append, hp c, hq c]
  simp only [Language.mem_add, or_and_right, exists_or]

/-- An optional pattern also reads the empty word. -/
theorem reads_opt (hp : p.Reads L) : p.opt.Reads (L + 1) :=
  reads_either hp reads_here

/-- A single character is read as it is. -/
theorem reads_char (x : Char) : (chars [x]).Reads {[x]} := by
  have h : single (· == x) = {[x]} := by
    ext t
    constructor
    · rintro ⟨y, hy, rfl⟩
      rw [beq_iff_eq.mp hy]
      rfl
    · rintro rfl
      exact ⟨x, beq_self_eq_true x, rfl⟩
  exact h ▸ reads_one

/-- A repetition of at least one character reads the words over the class that are not empty. -/
theorem reads_plus_one : (one accepts).plus.Reads (single accepts * several accepts) :=
  reads_append reads_one reads_star_one

/-- A choice between no patterns reads nothing. -/
theorem reads_choice_nil : (choice []).Reads 0 := by
  intro c d
  refine (reads_one c d).trans (iff_of_false ?_ ?_)
  · rintro ⟨_, ⟨_, hx, _⟩, _⟩
    cases hx
  · rintro ⟨_, h, _⟩
    exact h

/-- The first of several patterns that leads on reads the words of all. -/
theorem reads_choice {ps : List Pattern} {Ls : List CharLanguage}
    (h : List.Forall₂ Reads ps Ls) : (choice ps).Reads Ls.sum := by
  induction h with
  | nil => exact reads_choice_nil
  | cons hp h ih =>
    rw [List.sum_cons]
    cases h with
    | nil =>
      rw [List.sum_nil, add_zero]
      exact hp
    | cons => exact reads_either hp ih

end Languages

/-! ## Words in any case -/

section Words

/-- The forms of a lower-case text in any case. -/
def folded (cs : List Char) : CharLanguage :=
  {t | List.Forall₂ (fun c x => sameFolded c x = true) cs t}

/-- The empty word has one form. -/
theorem folded_nil : folded [] = 1 := by
  ext t
  exact List.forall₂_nil_left_iff

/-- The forms of a word are those of its first letter in front of those of the others. -/
theorem folded_cons (c : Char) (cs : List Char) :
    folded (c :: cs) = single (sameFolded c) * folded cs := by
  ext t
  refine List.forall₂_cons_left_iff.trans (Iff.trans ?_ Language.mem_mul.symm)
  constructor
  · rintro ⟨x, t, hx, ht, rfl⟩
    exact ⟨[x], ⟨x, hx, rfl⟩, t, ht, rfl⟩
  · rintro ⟨_, ⟨x, hx, rfl⟩, t, ht, rfl⟩
    exact ⟨x, t, hx, ht, rfl⟩

/-- The forms of two words in a row are concatenated. -/
theorem folded_append (cs cs' : List Char) : folded (cs ++ cs') = folded cs * folded cs' := by
  induction cs with
  | nil => rw [List.nil_append, folded_nil, one_mul]
  | cons c cs ih => rw [List.cons_append, folded_cons, folded_cons, ih, mul_assoc]

/-- A word in any case is read in all its forms. -/
theorem reads_anyCase (w : String) : (anyCase w).Reads (folded w.toList) := by
  rw [anyCase]
  induction w.toList with
  | nil => exact folded_nil ▸ reads_here
  | cons c cs ih => exact folded_cons c cs ▸ reads_append reads_one ih

/-- The forms of some lower-case words in any case. -/
def spelling (words : List String) : CharLanguage :=
  (words.map fun w => folded w.toList).sum

/-- The spellings of one word are its forms. -/
theorem spelling_singleton (w : String) : spelling [w] = folded w.toList := by
  rw [spelling, List.map_singleton, List.sum_singleton]

/-- A word in any case is read in its spellings. -/
theorem reads_word (w : String) : (anyCase w).Reads (spelling [w]) :=
  spelling_singleton w ▸ reads_anyCase w

/-- A spelling of some words is a form of one of them. -/
theorem mem_spelling {words : List String} {t : List Char} :
    t ∈ spelling words ↔ ∃ w ∈ words, t ∈ folded w.toList := by
  rw [spelling]
  induction words with
  | nil => exact iff_of_false id nofun
  | cons w words ih =>
    rw [List.map_cons, List.sum_cons, Language.mem_add, ih, List.exists_mem_cons_iff]

/-- The spellings of two lists of words are those of both. -/
theorem spelling_append (words words' : List String) :
    spelling (words ++ words') = spelling words + spelling words' := by
  rw [spelling, List.map_append, List.sum_append, spelling, spelling]

private theorem spelling_flatten (wss : List (List String)) :
    spelling wss.flatten = (wss.map spelling).sum := by
  induction wss with
  | nil => rfl
  | cons words wss ih => rw [List.flatten_cons, spelling_append, ih, List.map_cons, List.sum_cons]

/-- A word with every one of some endings. -/
theorem folded_mul_spelling (w : String) (endings : List String) :
    folded w.toList * spelling endings = spelling (endings.map (w ++ ·)) := by
  rw [spelling, ← List.sum_map_mul_left, spelling, List.map_map]
  congr 2
  funext ending
  rw [Function.comp_apply, String.toList_append, folded_append]

/-- The forms of one of some words with an ending. -/
theorem spelling_mul_folded (words : List String) (ending : String) :
    spelling words * folded ending.toList = spelling (words.map (· ++ ending)) := by
  rw [spelling, ← List.sum_map_mul_right, spelling, List.map_map]
  congr 2
  funext w
  rw [Function.comp_apply, String.toList_append, folded_append]

/-- A choice between patterns that read spellings reads the spellings of all words. -/
theorem reads_choice_spelling {ps : List Pattern} {wss : List (List String)}
    (h : List.Forall₂ (fun p words => p.Reads (spelling words)) ps wss) :
    (choice ps).Reads (spelling wss.flatten) := by
  rw [spelling_flatten]
  exact reads_choice (List.forall₂_map_right_iff.mpr h)

/-- A choice between words in any case reads their spellings. -/
theorem reads_choice_anyCase (words : List String) :
    (choice (words.map anyCase)).Reads (spelling words) := by
  refine reads_choice ?_
  rw [List.forall₂_map_left_iff, List.forall₂_map_right_iff, List.forall₂_same]
  exact fun w _ => reads_anyCase w

/-- A word with one of some endings or with none. -/
theorem reads_anyCase_opt (w : String) (endings : List String) :
    (anyCase w ++ opt (choice (endings.map anyCase))).Reads
      (spelling ((endings ++ [""]).map (w ++ ·))) := by
  have hone : spelling [""] = 1 := (spelling_singleton "").trans folded_nil
  rw [← folded_mul_spelling, spelling_append, hone]
  exact reads_append (reads_anyCase w) (reads_opt (reads_choice_anyCase endings))

private theorem isAsciiUpper_of_toNat_add {c x : Char} (hc : isAsciiLower c = true)
    (h : x.toNat + 32 = c.toNat) : isAsciiUpper x = true := by
  simp only [isAsciiLower, Bool.and_eq_true, decide_eq_true_eq] at hc
  have hlow : 97 ≤ c.toNat := hc.1
  have hhigh : c.toNat ≤ 122 := hc.2
  simp only [isAsciiUpper, Bool.and_eq_true, decide_eq_true_eq]
  exact ⟨show 65 ≤ x.toNat by omega, show x.toNat ≤ 90 by omega⟩

/-- The forms of a letter are characters of words, the Kelvin sign and the long s among them. -/
theorem isWord_of_sameFolded {c x : Char} (hc : isAsciiLower c = true)
    (h : sameFolded c x = true) : isWord x = true := by
  simp only [sameFolded, Bool.or_eq_true, beq_iff_eq, Bool.and_eq_true] at h
  rcases h with ((rfl | ⟨_, h⟩) | ⟨_, h⟩) | ⟨_, h⟩
  · exact isWord_of_isAsciiLetter (by rw [isAsciiLetter, hc, Bool.or_true])
  · have hx := isAsciiUpper_of_toNat_add hc h
    exact isWord_of_isAsciiLetter (by rw [isAsciiLetter, hx, Bool.true_or])
  · rw [← Char.ofNat_toNat x, h]
    decide +kernel
  · rw [← Char.ofNat_toNat x, h]
    decide

/-- The forms of a word in letters are in letters. -/
theorem isWord_of_mem_folded {cs t : List Char} (hcs : ∀ c ∈ cs, isAsciiLower c = true)
    (h : t ∈ folded cs) : ∀ x ∈ t, isWord x = true := by
  induction h with
  | nil => exact nofun
  | cons hx _ ih =>
    obtain ⟨hc, hcs⟩ := List.forall_mem_cons.mp hcs
    exact List.forall_mem_cons.mpr ⟨isWord_of_sameFolded hc hx, ih hcs⟩

end Words

/-! ## Words between borders -/

section Borders

variable {L : CharLanguage}

/-- One of the words stands in the text, with no character of a word on either side. -/
def StandsAlone (L : CharLanguage) (s : List Char) : Prop :=
  ∃ front, ∃ w ∈ L, ∃ back, s = front ++ (w ++ back) ∧
    front.getLast?.any isWord = false ∧ back.head?.any isWord = false

private theorem boundaries_iff {w : List Char} (hfirst : w.head?.any isWord = true)
    (hlast : w.getLast?.any isWord = true) (front back : List Char) :
    ((between front (w ++ back)).prev.any isWord !=
        (between front (w ++ back)).rest.head?.any isWord) = true ∧
      ((between (front ++ w) back).prev.any isWord !=
        (between (front ++ w) back).rest.head?.any isWord) = true ↔
    front.getLast?.any isWord = false ∧ back.head?.any isWord = false := by
  have hne : w ≠ [] := by
    rintro rfl
    cases hfirst
  have hhead : (w ++ back).head?.any isWord = true := by
    rwa [List.head?_append_of_ne_nil _ hne]
  have hend : (front ++ w).getLast?.any isWord = true := by
    rwa [List.getLast?_append_of_ne_nil _ hne]
  simp only [between, hhead, hend, Bool.bne_true, Bool.true_bne, Bool.not_eq_eq_eq_not,
    Bool.not_true]

/-- A pattern of words between two borders is found where one of the words stands alone. -/
theorem found_boundary_iff (hp : p.Reads L)
    (hL : ∀ w ∈ L, w.head?.any isWord = true ∧ w.getLast?.any isWord = true) :
    (boundary ++ p ++ boundary).found s = true ↔ StandsAlone L s := by
  simp only [found_iff, mem_offers_append, boundary, mem_offers_look, hp _ _]
  constructor
  · rintro ⟨front, back, d, rfl, _, ⟨_, ⟨hfront, rfl⟩, w, hw, rest, hback, rfl⟩, hrest, rfl⟩
    obtain rfl : back = w ++ rest := hback
    rw [past_between] at hrest
    obtain ⟨hfirst, hlast⟩ := hL w hw
    exact ⟨front, w, hw, rest, rfl, (boundaries_iff hfirst hlast front rest).mp ⟨hfront, hrest⟩⟩
  · rintro ⟨front, w, hw, back, rfl, h⟩
    obtain ⟨hfirst, hlast⟩ := hL w hw
    obtain ⟨hfront, hback⟩ := (boundaries_iff hfirst hlast front back).mpr h
    rw [← past_between] at hback
    exact ⟨front, w ++ back, _, rfl, _, ⟨_, ⟨hfront, rfl⟩, w, hw, back, rfl, rfl⟩, hback, rfl⟩

/-- A pattern of words at the start of a text is found where one of the words begins the text. -/
theorem found_textStart_iff (hp : p.Reads L) :
    (textStart ++ p).found s = true ↔ ∃ w ∈ L, w <+: s := by
  simp only [found_iff, mem_offers_append, textStart, mem_offers_look, hp _ _]
  constructor
  · rintro ⟨front, back, d, rfl, _, ⟨hfront, rfl⟩, w, hw, rest, hback, rfl⟩
    obtain rfl : front = [] := List.getLast?_eq_none_iff.mp (Option.isNone_iff_eq_none.mp hfront)
    exact ⟨w, hw, rest, hback.symm⟩
  · rintro ⟨w, hw, rest, rfl⟩
    exact ⟨[], w ++ rest, _, rfl, _, ⟨rfl, rfl⟩, w, hw, rest, rfl, rfl⟩

/-- The second of two patterns goes on from every place that the first one offers. -/
theorem offers_append (p q : Pattern) :
    (p ++ q).offers = fun c => (p.offers c).flatMap q.offers :=
  rfl

/-- Patterns that offer the same are found in the same texts. -/
theorem found_congr (h : p.offers = q.offers) (s : List Char) : p.found s = q.found s := by
  rw [Bool.eq_iff_iff, found_iff, found_iff, h]

end Borders

end Pattern

end Adjudicator
