import Adjudicator.Text.Blank
import Adjudicator.Text.WordChar
import Mathlib.Data.List.DropRight

/-!
# Trimmed texts

Trimming leaves nothing of a blank text and of no other, and what it leaves does not end in blanks.
No character of words is a blank.
-/

namespace Adjudicator.Text

private theorem dropEndWhile_eq_rdropWhile (p : Char → Bool) (s : List Char) :
    dropEndWhile p s = s.rdropWhile p :=
  rfl

/-- Only of a blank text nothing remains. -/
theorem trim_eq_nil_iff {s : List Char} : trim s = [] ↔ blank s = true := by
  rw [trim, trimEnd, dropEndWhile_eq_rdropWhile, List.rdropWhile_eq_nil_iff, blank,
    List.all_eq_true]
  constructor
  · intro h
    have hstart : trimStart s = [] := by
      rw [trimStart, ← List.dropWhile_idempotent]
      exact List.dropWhile_eq_nil_iff.mpr h
    exact List.dropWhile_eq_nil_iff.mp hstart
  · intro h c hc
    exact h c ((List.dropWhile_suffix isBlank).subset hc)

/-- A trimmed text has no blanks at its end. -/
theorem eq_nil_of_trim_eq_append {s front back : List Char} (h : trim s = front ++ back)
    (hback : ∀ c ∈ back, isBlank c = true) : back = [] := by
  by_contra hne
  have htrim : trim s ≠ [] := by
    rw [h]
    exact List.append_ne_nil_of_right_ne_nil front hne
  have hlast := List.rdropWhile_last_not isBlank (trimStart s) htrim
  apply hlast
  have hmem : (trim s).getLast htrim ∈ back := by
    simp only [h, List.getLast_append_of_ne_nil _ hne]
    exact List.getLast_mem hne
  exact hback _ hmem

/-- Nothing is dropped of a text without characters of the class. -/
theorem dropEndWhile_eq_self {p : Char → Bool} {s : List Char} (h : ∀ c ∈ s, p c = false) :
    dropEndWhile p s = s := by
  rw [dropEndWhile_eq_rdropWhile, List.rdropWhile_eq_self_iff]
  intro hne
  rw [h _ (List.getLast_mem hne)]
  exact Bool.false_ne_true

/-- Characters of the class at the end are dropped. -/
theorem dropEndWhile_append {p : Char → Bool} {t : List Char} (ht : ∀ c ∈ t, p c = true)
    (s : List Char) : dropEndWhile p (s ++ t) = dropEndWhile p s := by
  have ht' : ∀ c ∈ t.reverse, p c = true := fun c hc => ht c (List.mem_reverse.mp hc)
  rw [dropEndWhile, List.reverse_append, List.dropWhile_append_of_pos ht']
  rfl

/-- Nothing is dropped up to a character outside the class. -/
theorem dropEndWhile_append_of_last {p : Char → Bool} {s : List Char}
    (hs : ∃ c ∈ s.getLast?, p c = false) (t : List Char) :
    dropEndWhile p (s ++ t) = s ++ dropEndWhile p t := by
  obtain ⟨c, hc, hp⟩ := hs
  obtain ⟨front, rfl⟩ := List.getLast?_eq_some_iff.mp hc
  have hfront : (front ++ [c]).reverse.dropWhile p = (front ++ [c]).reverse := by
    rw [List.reverse_concat, List.dropWhile_cons_of_neg (by rw [hp]; decide)]
  rw [dropEndWhile, dropEndWhile, List.reverse_append, List.dropWhile_append]
  split
  next hempty =>
    rw [hfront, List.reverse_reverse, List.isEmpty_iff.mp hempty, List.reverse_nil, List.append_nil]
  next => rw [List.reverse_append, List.reverse_reverse]

/-- Nothing is trimmed in front of a text that does not begin with a blank. -/
theorem trimStart_eq_self {s : List Char} (hfirst : ∀ c ∈ s.head?, isBlank c = false) :
    trimStart s = s := by
  rw [trimStart, List.dropWhile_eq_self_iff]
  intro hpos
  rw [hfirst _ (List.head?_eq_getElem? ▸ List.getElem?_eq_getElem hpos)]
  exact Bool.false_ne_true

/-- Nothing is trimmed of a text that neither begins nor ends with a blank. -/
theorem trim_eq_self {s : List Char} (hfirst : ∀ c ∈ s.head?, isBlank c = false)
    (hlast : ∀ c ∈ s.getLast?, isBlank c = false) : trim s = s := by
  rw [trim, trimStart_eq_self hfirst, trimEnd, dropEndWhile_eq_rdropWhile, List.rdropWhile_eq_self_iff]
  intro hne
  rw [hlast _ (List.getLast?_eq_some_getLast hne)]
  exact Bool.false_ne_true

/-- Nothing is trimmed between two characters that are no blanks. -/
theorem trim_eq_self_of_ends {s : List Char} {first last : Char} (hfirst : s.head? = some first)
    (hlast : s.getLast? = some last) (h : isBlank first = false ∧ isBlank last = false) :
    trim s = s := by
  refine trim_eq_self (fun c hc => ?_) fun c hc => ?_
  · rw [hfirst, Option.mem_some_iff] at hc
    exact hc ▸ h.1
  · rw [hlast, Option.mem_some_iff] at hc
    exact hc ▸ h.2

/-- A trimmed text does not begin with a blank. -/
theorem isBlank_of_mem_head?_trim {s : List Char} {c : Char} (hc : c ∈ (trim s).head?) :
    isBlank c = false := by
  have hprefix : trim s <+: trimStart s := List.rdropWhile_prefix isBlank (trimStart s)
  obtain ⟨rest, hrest⟩ := hprefix
  have hhead := List.head?_dropWhile_not isBlank s
  rw [← trimStart, ← hrest, List.head?_append, Option.mem_def.mp hc] at hhead
  exact hhead

/-- A trimmed text does not end with a blank. -/
theorem isBlank_of_mem_getLast?_trim {s : List Char} {c : Char} (hc : c ∈ (trim s).getLast?) :
    isBlank c = false := by
  obtain ⟨hne, rfl⟩ := List.mem_getLast?_eq_getLast hc
  exact Bool.eq_false_iff.mpr (List.rdropWhile_last_not isBlank (trimStart s) hne)

/-- Nothing is trimmed of a trimmed text. -/
theorem trim_trim (s : List Char) : trim (trim s) = trim s :=
  trim_eq_self (fun _ => isBlank_of_mem_head?_trim) fun _ => isBlank_of_mem_getLast?_trim

/-- Trimming makes no text blank. -/
theorem blank_trim (s : List Char) : blank (trim s) = blank s := by
  rw [Bool.eq_iff_iff, ← trim_eq_nil_iff, ← trim_eq_nil_iff, trim_trim]

/-- Blanks in front of a text are trimmed. -/
theorem trim_blanks_append {t : List Char} (ht : ∀ c ∈ t, isBlank c = true) (s : List Char) :
    trim (t ++ s) = trim s := by
  rw [trim, trimStart, List.dropWhile_append_of_pos ht]
  rfl

/-- Blanks behind a text are trimmed. -/
theorem trim_append_blanks {t : List Char} (ht : ∀ c ∈ t, isBlank c = true) (s : List Char) :
    trim (s ++ t) = trim s := by
  rw [trim, trim, trimStart, trimStart, List.dropWhile_append]
  split
  next hempty => rw [List.isEmpty_iff.mp hempty, List.dropWhile_eq_nil_iff.mpr ht]
  next => exact dropEndWhile_append ht _

/-- Around a part without blanks only what is outside is trimmed. -/
theorem trim_append_append {y : List Char} (hne : y ≠ []) (hy : ∀ c ∈ y, isBlank c = false)
    (s t : List Char) : trim (s ++ y ++ t) = trimStart s ++ y ++ trimEnd t := by
  have hstart : trimStart (s ++ (y ++ t)) = trimStart s ++ (y ++ t) := by
    obtain ⟨c, rest, rfl⟩ := List.exists_cons_of_ne_nil hne
    have hblank := hy c List.mem_cons_self
    rw [trimStart, List.dropWhile_append, List.cons_append,
      List.dropWhile_cons_of_neg (by rw [hblank]; decide)]
    split
    next hempty => rw [trimStart, List.isEmpty_iff.mp hempty, List.nil_append]
    next => rfl
  have hlast : (trimStart s ++ y).getLast? = some (y.getLast hne) := by
    rw [List.getLast?_append_of_ne_nil _ hne, List.getLast?_eq_some_getLast hne]
  rw [trim, List.append_assoc, hstart, ← List.append_assoc]
  exact dropEndWhile_append_of_last ⟨_, hlast, hy _ (List.getLast_mem hne)⟩ t

/-- Trimming adds no characters. -/
theorem mem_of_mem_trim {c : Char} {s : List Char} (h : c ∈ trim s) : c ∈ s :=
  (List.dropWhile_suffix isBlank).subset
    ((List.rdropWhile_prefix isBlank (trimStart s)).subset h)

/-- A text is what is left of it and the blanks behind. -/
theorem exists_trimEnd_append (s : List Char) :
    ∃ blanks, s = trimEnd s ++ blanks ∧ ∀ c ∈ blanks, isBlank c = true :=
  ⟨s.rtakeWhile isBlank, List.rdropWhile_append_rtakeWhile.symm,
    fun _ hc => List.mem_rtakeWhile_imp hc⟩

/-! ## Characters of words -/

/-- What all characters of a text have is decided on these characters. The general instance for
characters runs through all there are. -/
instance (priority := high) decidableForallMem (s : List Char) (P : Char → Prop) [DecidablePred P] :
    Decidable (∀ c ∈ s, P c) :=
  List.decidableBAll P s

/-- Stretches of code points that hold the blanks outside ASCII and no character of a table. -/
private def blankStretches : List (Nat × Nat) :=
  [(0x85, 0x85), (0xA0, 0xA0), (0x1680, 0x1680), (0x2000, 0x205F), (0x3000, 0x3000)]

/-- No range reaches into a stretch of code points that is apart from all of them. -/
private theorem inRanges_eq_false {ranges : List (Nat × Nat)} {first last n : Nat}
    (h : (ranges.all fun r => Nat.blt r.2 first || Nat.blt last r.1) = true) (hfirst : first ≤ n)
    (hlast : n ≤ last) : inRanges ranges n = false := by
  rw [inRanges, List.any_eq_false]
  intro r hr
  have hapart : r.2 < first ∨ last < r.1 := by
    simpa only [Bool.or_eq_true, Nat.blt_eq] using List.all_eq_true.mp h r hr
  simp only [Bool.and_eq_true, decide_eq_true_eq]
  omega

/-- No blank is a character of words. -/
theorem isWord_of_isBlank {c : Char} (h : isBlank c = true) : isWord c = false := by
  simp only [isBlank, Bool.or_eq_true, Bool.and_eq_true, beq_iff_eq, decide_eq_true_eq] at h
  by_cases hascii : c.toNat < 128
  · have hcode : c.toNat ∈ [9, 10, 11, 12, 13, 0x20] := by
      simp only [List.mem_cons, List.not_mem_nil]
      omega
    have hcodes : ∀ n ∈ [9, 10, 11, 12, 13, 0x20], isWord (Char.ofNat n) = false := by decide
    rw [← Char.ofNat_toNat c]
    exact hcodes _ hcode
  · obtain ⟨⟨first, last⟩, hstretch, hfirst, hlast⟩ :
        ∃ s ∈ blankStretches, s.1 ≤ c.toNat ∧ c.toNat ≤ s.2 := by
      simp only [blankStretches, List.exists_mem_cons_iff, List.not_mem_nil, false_and,
        exists_false]
      omega
    have htables : (blankStretches.all fun s =>
        [Table.alphabetic, Table.mark, Table.decimalDigit].all fun ranges =>
          ranges.all fun r => Nat.blt r.2 s.1 || Nat.blt s.2 r.1) = true := by
      decide +kernel
    have hout : ∀ ranges ∈ [Table.alphabetic, Table.mark, Table.decimalDigit],
        inRanges ranges c.toNat = false := fun ranges hranges =>
      inRanges_eq_false (List.all_eq_true.mp (List.all_eq_true.mp htables _ hstretch) _ hranges)
        hfirst hlast
    have hjoiner : isJoiner c.toNat = false := by
      simp only [isJoiner, Bool.or_eq_false_iff, Bool.and_eq_false_iff, beq_eq_false_iff_ne,
        decide_eq_false_iff_not]
      omega
    simp only [List.forall_mem_cons] at hout
    simp only [isWord, if_neg hascii, hout, hjoiner, Bool.or_self]

/-- No character of words is blank. -/
theorem isBlank_of_isWord {c : Char} (h : isWord c = true) : isBlank c = false := by
  rw [Bool.eq_false_iff]
  intro hblank
  exact Bool.false_ne_true ((isWord_of_isBlank hblank).symm.trans h)

end Adjudicator.Text
