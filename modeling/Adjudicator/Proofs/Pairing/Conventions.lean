import Adjudicator.Proofs.Pairing.Choice
import Adjudicator.Proofs.Text.Trim
import Mathlib.Data.Bool.AllAny

/-!
# Conventions for the names of tests

A test is named after a word by a mark in front of the word or behind it, in snake case or in camel
case. The marks are taken off one after the other, and a word that begins or ends like a mark keeps
its letters, because a mark ends only in front of a capital or an underscore. Main statement: every
convention leaves the word, so the test is paired with the first method of that name.
-/

namespace Adjudicator

namespace Text

variable {c : Char} {s : List Char}

private theorem of_code_points {P : Char → Prop} {first count : Nat}
    (h : ∀ i < count, P (Char.ofNat (first + i))) (hfirst : first ≤ c.toNat)
    (hlast : c.toNat < first + count) : P c := by
  have hc := h (c.toNat - first) (by omega)
  rwa [Nat.add_sub_of_le hfirst, Char.ofNat_toNat] at hc

/-- What holds of all small letters of ASCII. -/
theorem of_isAsciiLower {P : Char → Prop} (h : ∀ i < 26, P (Char.ofNat (97 + i)))
    (hc : isAsciiLower c = true) : P c := by
  simp only [isAsciiLower, Bool.and_eq_true, decide_eq_true_eq] at hc
  have hfirst : 97 ≤ c.toNat := hc.1
  have hlast : c.toNat ≤ 122 := hc.2
  exact of_code_points h hfirst (by omega)

/-- What holds of all capitals of ASCII. -/
theorem of_isAsciiUpper {P : Char → Prop} (h : ∀ i < 26, P (Char.ofNat (65 + i)))
    (hc : isAsciiUpper c = true) : P c := by
  simp only [isAsciiUpper, Bool.and_eq_true, decide_eq_true_eq] at hc
  have hfirst : 65 ≤ c.toNat := hc.1
  have hlast : c.toNat ≤ 90 := hc.2
  exact of_code_points h hfirst (by omega)

/-- What holds of all digits of ASCII. -/
theorem of_isAsciiDigit {P : Char → Prop} (h : ∀ i < 10, P (Char.ofNat (48 + i)))
    (hc : isAsciiDigit c = true) : P c := by
  simp only [isAsciiDigit, Bool.and_eq_true, decide_eq_true_eq] at hc
  have hfirst : 48 ≤ c.toNat := hc.1
  have hlast : c.toNat ≤ 57 := hc.2
  exact of_code_points h hfirst (by omega)

private theorem lowerFrom_of_ascii (before : List Char) (h : ∀ c ∈ s, c.toNat < 128) :
    lowerFrom before s = s.map asciiLowerChar := by
  induction s generalizing before with
  | nil => rfl
  | cons c s ih =>
    obtain ⟨hc, hs⟩ := List.forall_mem_cons.mp h
    have hsigma : c ≠ 'Σ' := by
      rintro rfl
      exact absurd hc (by decide)
    have hdotted : c ≠ 'İ' := by
      rintro rfl
      exact absurd hc (by decide)
    have hlower : lowerChar c = asciiLowerChar c := by
      rw [lowerChar, if_pos hc, asciiLowerChar]
    rw [lowerFrom, if_neg hsigma, if_neg hdotted, ih _ hs, hlower]
    rfl

/-- Lower case of a text in ASCII, letter by letter. -/
theorem lower_of_ascii (h : ∀ c ∈ s, c.toNat < 128) : lower s = s.map asciiLowerChar :=
  lowerFrom_of_ascii [] h

end Text

namespace Pairing

open Text

/-! ## Words and conventions -/

/-- A small letter or a digit of ASCII. -/
def IsWordChar (c : Char) : Prop :=
  isAsciiLower c = true ∨ isAsciiDigit c = true

instance : DecidablePred IsWordChar := fun c =>
  inferInstanceAs (Decidable (isAsciiLower c = true ∨ isAsciiDigit c = true))

/-- What holds of all characters of words. -/
theorem IsWordChar.of_all {P : Char → Prop} {c : Char} (h : IsWordChar c)
    (hlower : ∀ i < 26, P (Char.ofNat (97 + i))) (hdigit : ∀ i < 10, P (Char.ofNat (48 + i))) :
    P c :=
  h.elim (of_isAsciiLower hlower) (of_isAsciiDigit hdigit)

/-- A word that tests are named after: a small letter with small letters and digits behind it, and
neither of the marks of tests. -/
structure TestedWord where
  /-- The letter in front. -/
  first : Char
  /-- What follows it. -/
  rest : List Char
  /-- A small letter is in front. -/
  first_lower : isAsciiLower first = true
  /-- Small letters and digits follow. -/
  rest_word : ∀ c ∈ rest, IsWordChar c
  /-- It is not the mark `test`. -/
  ne_test : first :: rest ≠ "test".toList
  /-- It is not the mark `should`. -/
  ne_should : first :: rest ≠ "should".toList

namespace TestedWord

/-- The word. -/
def text (w : TestedWord) : List Char :=
  w.first :: w.rest

/-- The word with a capital in front. -/
def capitalized (w : TestedWord) : List Char :=
  w.first.toUpper :: w.rest

end TestedWord

/-- A way to name a test after a word. -/
inductive Convention where
  /-- `test_` and the word. -/
  | testSnake
  /-- `test` and the capitalized word. -/
  | testCamel
  /-- `Test` and the capitalized word. -/
  | testPascal
  /-- `should_` and the word. -/
  | shouldSnake
  /-- `should` and the capitalized word. -/
  | shouldCamel
  /-- The word and `_test`. -/
  | snakeTest
  /-- The capitalized word and `Test`. -/
  | pascalTest
deriving DecidableEq, Repr

/-- The name of a test of a word. -/
def Convention.name (w : TestedWord) : Convention → List Char
  | testSnake => "test_".toList ++ w.text
  | testCamel => "test".toList ++ w.capitalized
  | testPascal => "Test".toList ++ w.capitalized
  | shouldSnake => "should_".toList ++ w.text
  | shouldCamel => "should".toList ++ w.capitalized
  | snakeTest => w.text ++ "_test".toList
  | pascalTest => w.capitalized ++ "Test".toList

/-! ## Characters of names -/

namespace TestedWord

variable (w : TestedWord)

/-- What holds of small letters and digits holds of the characters of a word. -/
theorem forall_mem_text {P : Char → Prop} (hlower : ∀ i < 26, P (Char.ofNat (97 + i)))
    (hdigit : ∀ i < 10, P (Char.ofNat (48 + i))) : ∀ c ∈ w.text, P c :=
  List.forall_mem_cons.mpr ⟨of_isAsciiLower hlower w.first_lower,
    fun c hc => (w.rest_word c hc).of_all hlower hdigit⟩

/-- What also holds of capitals holds of the characters of a capitalized word. -/
theorem forall_mem_capitalized {P : Char → Prop}
    (hupper : ∀ i < 26, P (Char.ofNat (97 + i)).toUpper)
    (hlower : ∀ i < 26, P (Char.ofNat (97 + i))) (hdigit : ∀ i < 10, P (Char.ofNat (48 + i))) :
    ∀ c ∈ w.capitalized, P c :=
  List.forall_mem_cons.mpr ⟨of_isAsciiLower (P := fun c => P c.toUpper) hupper w.first_lower,
    fun c hc => (w.rest_word c hc).of_all hlower hdigit⟩

/-- Behind its first letter a word is neither capital nor underscore. -/
theorem not_ends_mark : ∀ c ∈ w.rest, (isAsciiUpper c || c == '_') = false :=
  fun c hc => (w.rest_word c hc).of_all (P := fun c => (isAsciiUpper c || c == '_') = false)
    (by decide) (by decide)

/-- No other character is behind the first one of a word. -/
theorem not_mem_rest {x : Char} (hlower : ∀ i < 26, Char.ofNat (97 + i) ≠ x)
    (hdigit : ∀ i < 10, Char.ofNat (48 + i) ≠ x) : x ∉ w.rest :=
  fun hx => (w.rest_word x hx).of_all (P := (· ≠ x)) hlower hdigit rfl

/-- No other character is in a word. -/
theorem not_mem_text {x : Char} (hlower : ∀ i < 26, Char.ofNat (97 + i) ≠ x)
    (hdigit : ∀ i < 10, Char.ofNat (48 + i) ≠ x) : x ∉ w.text :=
  fun hx => w.forall_mem_text (P := (· ≠ x)) hlower hdigit x hx rfl

/-- No other character is in a capitalized word. -/
theorem not_mem_capitalized {x : Char} (hupper : ∀ i < 26, (Char.ofNat (97 + i)).toUpper ≠ x)
    (hlower : ∀ i < 26, Char.ofNat (97 + i) ≠ x) (hdigit : ∀ i < 10, Char.ofNat (48 + i) ≠ x) :
    x ∉ w.capitalized :=
  fun hx => w.forall_mem_capitalized (P := (· ≠ x)) hupper hlower hdigit x hx rfl

/-- The first letter is capital in the capitalized word. -/
theorem isAsciiUpper_first : isAsciiUpper w.first.toUpper = true :=
  of_isAsciiLower (P := fun c => isAsciiUpper c.toUpper = true) (by decide) w.first_lower

private theorem map_rest : w.rest.map asciiLowerChar = w.rest := by
  have hsame : ∀ c ∈ w.rest, asciiLowerChar c = id c := fun c hc =>
    (w.rest_word c hc).of_all (P := fun c => asciiLowerChar c = c) (by decide) (by decide)
  rw [List.map_congr_left hsame, List.map_id]

/-- The characters of a word are in lower case. -/
theorem map_text : w.text.map asciiLowerChar = w.text := by
  have hfirst : asciiLowerChar w.first = w.first :=
    of_isAsciiLower (P := fun c => asciiLowerChar c = c) (by decide) w.first_lower
  rw [text, List.map_cons, hfirst, w.map_rest]

/-- A word is in lower case. -/
theorem lower_text : lower w.text = w.text := by
  rw [lower_of_ascii (w.forall_mem_text (by decide) (by decide)), w.map_text]

/-- A capitalized word has the characters of the word in lower case. -/
theorem map_capitalized : w.capitalized.map asciiLowerChar = w.text := by
  have hfirst : asciiLowerChar w.first.toUpper = w.first :=
    of_isAsciiLower (P := fun c => asciiLowerChar c.toUpper = c) (by decide) w.first_lower
  rw [capitalized, List.map_cons, hfirst, w.map_rest, text]

/-- A capitalized word is the word in lower case. -/
theorem lower_capitalized : lower w.capitalized = w.text := by
  rw [lower_of_ascii (w.forall_mem_capitalized (by decide) (by decide) (by decide)),
    w.map_capitalized]

end TestedWord

/-! ## Marks -/

section Marks

variable {w t mark : List Char} {c x : Char} {start ending : String}

/-- A character without case is equal up to case to no other. -/
theorem eq_of_asciiLowerChar_eq (hx : isAsciiLetter x = false)
    (h : asciiLowerChar c = asciiLowerChar x) : c = x := by
  rw [isAsciiLetter, Bool.or_eq_false_iff] at hx
  have hsame : asciiLowerChar x = x := by rw [asciiLowerChar, hx.1, if_neg Bool.false_ne_true]
  by_cases hc : isAsciiUpper c = true
  · have hlower : isAsciiLower (asciiLowerChar c) = true :=
      of_isAsciiUpper (P := fun c => isAsciiLower (asciiLowerChar c) = true) (by decide) hc
    rw [h, hsame, hx.2] at hlower
    cases hlower
  · rwa [hsame, asciiLowerChar, if_neg hc] at h

/-- A start is taken off in front of any name. -/
theorem dropFolded_append (start : String) (w : List Char) :
    dropFolded (start.toList ++ w) start = w := by
  simp only [dropFolded, afterFolded?, List.take_left, List.drop_left, foldEq, beq_self_eq_true,
    if_true, Option.getD_some]

/-- A name that does not begin with a start in any case keeps it all. -/
theorem dropFolded_eq_self
    (h : (w.take start.toList.length).map asciiLowerChar ≠ start.toList.map asciiLowerChar) :
    dropFolded w start = w := by
  have hfold : ¬foldEq (w.take start.toList.length) start.toList = true := mt beq_iff_eq.mp h
  rw [dropFolded, afterFolded?, if_neg hfold, Option.getD_none]

/-- A start ends in a character without case, which has to be in the name. -/
theorem dropFolded_of_not_mem (mark : List Char) (hstart : start.toList = mark ++ [x])
    (hx : isAsciiLetter x = false) (hw : x ∉ w) : dropFolded w start = w := by
  refine dropFolded_eq_self fun h => hw ?_
  have hmem : asciiLowerChar x ∈ (w.take start.toList.length).map asciiLowerChar := by
    rw [h, hstart, List.map_append]
    exact List.mem_append_right _ (List.mem_singleton_self _)
  obtain ⟨c, hc, hsame⟩ := List.mem_map.mp hmem
  rw [← eq_of_asciiLowerChar_eq hx hsame]
  exact List.mem_of_mem_take hc

/-- The first such character ends the start. -/
theorem dropFolded_of_ne (hstart : start.toList = mark ++ [x]) (hx : isAsciiLetter x = false)
    (hmark : x ∉ mark) (hw : x ∉ w) (hne : w.map asciiLowerChar ≠ mark.map asciiLowerChar) :
    dropFolded (w ++ x :: t) start = w ++ x :: t := by
  refine dropFolded_eq_self fun h => hne ?_
  rw [hstart, List.length_append, List.length_singleton] at h
  clear hstart hne
  induction mark generalizing w with
  | nil =>
    cases w with
    | nil => rfl
    | cons c w =>
      have hc : asciiLowerChar c = asciiLowerChar x := by simpa using h
      exact absurd (eq_of_asciiLowerChar_eq hx hc ▸ List.mem_cons_self) hw
  | cons a mark ih =>
    cases w with
    | nil =>
      have ha : asciiLowerChar x = asciiLowerChar a := by simpa using (List.cons.inj h).1
      exact absurd (eq_of_asciiLowerChar_eq hx ha.symm ▸ List.mem_cons_self) hmark
    | cons c w =>
      obtain ⟨hc, htail⟩ := List.cons.inj h
      rw [List.map_cons, List.map_cons, hc]
      exact congrArg (_ :: ·) (ih (mt (List.mem_cons_of_mem a) hmark)
        (mt (List.mem_cons_of_mem c) hw) htail)

/-- A start is taken off in front of a capital. -/
theorem dropStart_append (start : String) (hc : isAsciiUpper c = true) :
    dropStart (start.toList ++ c :: w) start = c :: w := by
  have hafter : afterStart? start.toList (start.toList ++ c :: w) = some (c :: w) :=
    List.isPrefixOf?_eq_some_iff_append_eq.mpr rfl
  have hunderscore : c ≠ '_' := by
    rintro rfl
    cases hc
  simp only [dropStart, hafter, hc, Bool.true_or, if_true, List.dropWhile_cons,
    beq_false_of_ne hunderscore, Bool.false_eq_true, if_false]

/-- A start is not taken off a name that begins with another character. -/
theorem dropStart_of_head_ne {a b : Char} (hstart : start.toList = a :: mark) (hne : a ≠ b) :
    dropStart (b :: w) start = b :: w := by
  unfold dropStart
  split
  next c rest hafter =>
    have hsplit := List.isPrefixOf?_eq_some_iff_append_eq.mp hafter
    rw [hstart] at hsplit
    exact absurd (List.cons.inj hsplit).1 hne
  next => rfl

/-- A start that is not the whole front of a name is kept, when what follows it inside the front is
neither capital nor underscore and it does not end inside what is behind the front. -/
theorem dropStart_eq_self (hstart : start.toList ≠ []) (hne : w ≠ []) (hdiffers : start.toList ≠ w)
    (hw : ∀ c ∈ w.tail, (isAsciiUpper c || c == '_') = false)
    (ht : ∀ c ∈ t.head?, c ∉ start.toList.tail) : dropStart (w ++ t) start = w ++ t := by
  have hkept : ∀ c rest, start.toList ++ c :: rest = w ++ t →
      (isAsciiUpper c || c == '_') = false := by
    intro c rest hsplit
    obtain ⟨a, front, hfront⟩ := List.exists_cons_of_ne_nil hstart
    obtain ⟨b, inner, rfl⟩ := List.exists_cons_of_ne_nil hne
    rcases List.append_eq_append_iff.mp hsplit with ⟨more, hword, hrest⟩ | ⟨more, hlong, hrest⟩
    · -- the start ends inside the front, or it would be all of it
      cases more with
      | nil => exact absurd (hword.trans (List.append_nil _)).symm hdiffers
      | cons d more =>
        obtain rfl := (List.cons.inj hrest).1
        refine hw c ?_
        rw [hfront, List.cons_append] at hword
        rw [(List.cons.inj hword).2]
        exact List.mem_append_right _ List.mem_cons_self
    · cases more with
      | nil => exact absurd (hlong.trans (List.append_nil _)) hdiffers
      | cons d more =>
        refine absurd ?_ (ht d (by rw [hrest]; rfl))
        rw [hlong]
        exact List.mem_append_right _ List.mem_cons_self
  unfold dropStart
  split
  next c rest hafter =>
    rw [hkept c rest (List.isPrefixOf?_eq_some_iff_append_eq.mp hafter), if_neg Bool.false_ne_true]
  next => rfl

/-- An ending is taken off behind any name. -/
theorem dropEnding_append (hw : w ≠ []) (ending : String) :
    dropEnding (w ++ ending.toList) ending = w := by
  have hbefore : beforeEnd? ending.toList (w ++ ending.toList) = some w :=
    List.isSuffixOf?_eq_some_iff_append_eq.mpr rfl
  obtain ⟨c, w, rfl⟩ := List.exists_cons_of_ne_nil hw
  rw [dropEnding, hbefore]

/-- An ending whose first character stands in front of the name alone is kept. -/
theorem dropEnding_eq_self (mark : List Char) (hending : ending.toList = x :: mark)
    (hx : x ∉ w.tail) : dropEnding w ending = w := by
  unfold dropEnding
  split
  next c rest hbefore =>
    have hsplit := List.isSuffixOf?_eq_some_iff_append_eq.mp hbefore
    refine absurd ?_ hx
    rw [← hsplit, hending]
    exact List.mem_append_right rest List.mem_cons_self
  next => rfl

end Marks

/-! ## Stages -/

/-- What is left when the starts in any case are taken off. -/
def withoutFolded (s : List Char) : List Char :=
  ["test_", "should_", "should "].foldl dropFolded s

/-- What is left when the starts in front of a capital are taken off. -/
def withoutStarts (s : List Char) : List Char :=
  ["test", "Test", "should"].foldl dropStart s

/-- What is left when the endings are taken off. -/
def withoutEndings (s : List Char) : List Char :=
  ["_test", "Test", "_should"].foldl dropEnding s

/-- A name is normalized in stages: it is trimmed, then the starts and the endings are taken off,
then it is put in lower case. -/
theorem normalizeName_of_stages {s folded started ended : List Char} (htrim : trim s = s)
    (hfolded : withoutFolded s = folded) (hstarted : withoutStarts folded = started)
    (hended : withoutEndings started = ended) : normalizeName s = lower ended := by
  subst hfolded hstarted hended
  rw [normalizeName, htrim, withoutEndings, withoutStarts, withoutFolded]

section Stages

variable (w : TestedWord) {s t : List Char}

/-- A name without underscores and spaces keeps the starts that end in one. -/
theorem withoutFolded_eq_self (hunderscore : '_' ∉ s) (hspace : ' ' ∉ s) : withoutFolded s = s := by
  have htest : dropFolded s "test_" = s :=
    dropFolded_of_not_mem "test".toList rfl (by decide) hunderscore
  have hshould : dropFolded s "should_" = s :=
    dropFolded_of_not_mem "should".toList rfl (by decide) hunderscore
  have hsentence : dropFolded s "should " = s :=
    dropFolded_of_not_mem "should".toList rfl (by decide) hspace
  simp only [withoutFolded, List.foldl_cons, List.foldl_nil, htest, hshould, hsentence]

/-- A mark in snake case is taken off in front of a word. -/
theorem withoutFolded_snake :
    withoutFolded ("test_".toList ++ w.text) = w.text ∧
      withoutFolded ("should_".toList ++ w.text) = w.text := by
  have hunderscore : '_' ∉ w.text := w.not_mem_text (by decide) (by decide)
  have hspace : ' ' ∉ w.text := w.not_mem_text (by decide) (by decide)
  have hshould : dropFolded w.text "should_" = w.text :=
    dropFolded_of_not_mem "should".toList rfl (by decide) hunderscore
  have hsentence : dropFolded w.text "should " = w.text :=
    dropFolded_of_not_mem "should".toList rfl (by decide) hspace
  have hmark (start : String) : dropFolded (start.toList ++ w.text) start = w.text :=
    dropFolded_append start w.text
  have hother : dropFolded ("should_".toList ++ w.text) "test_" = "should_".toList ++ w.text :=
    dropFolded_eq_self fun h => absurd (List.cons.inj h).1 (by decide)
  constructor
  · rw [withoutFolded, List.foldl_cons, List.foldl_cons, List.foldl_cons, List.foldl_nil,
      hmark "test_", hshould, hsentence]
  · rw [withoutFolded, List.foldl_cons, List.foldl_cons, List.foldl_cons, List.foldl_nil,
      hother, hmark "should_", hsentence]

/-- A word in front of an underscore is no start that ends in one. -/
theorem withoutFolded_text_append :
    withoutFolded (w.text ++ "_test".toList) = w.text ++ "_test".toList := by
  have hunderscore : '_' ∉ w.text := w.not_mem_text (by decide) (by decide)
  have hspace : ' ' ∉ w.text ++ "_test".toList := by
    rw [List.mem_append, not_or]
    exact ⟨w.not_mem_text (by decide) (by decide), by decide⟩
  have hne : w.text.map asciiLowerChar ≠ "test".toList.map asciiLowerChar :=
    w.map_text.symm ▸ w.ne_test
  have hne' : w.text.map asciiLowerChar ≠ "should".toList.map asciiLowerChar :=
    w.map_text.symm ▸ w.ne_should
  have htest : dropFolded (w.text ++ "_test".toList) "test_" = w.text ++ "_test".toList :=
    dropFolded_of_ne rfl (by decide) (by decide) hunderscore hne
  have hshould : dropFolded (w.text ++ "_test".toList) "should_" = w.text ++ "_test".toList :=
    dropFolded_of_ne rfl (by decide) (by decide) hunderscore hne'
  have hsentence : dropFolded (w.text ++ "_test".toList) "should " = w.text ++ "_test".toList :=
    dropFolded_of_not_mem "should".toList rfl (by decide) hspace
  rw [withoutFolded, List.foldl_cons, List.foldl_cons, List.foldl_cons, List.foldl_nil, htest,
    hshould, hsentence]

/-- No start is taken off a word, alone or in front of an underscore. -/
theorem withoutStarts_text_append (ht : ∀ c ∈ t.head?, c = '_') :
    withoutStarts (w.text ++ t) = w.text ++ t := by
  have hkept (start : String) (hstart : start.toList ≠ []) (hne : start.toList ≠ w.text)
      (hmark : '_' ∉ start.toList.tail) : dropStart (w.text ++ t) start = w.text ++ t :=
    dropStart_eq_self hstart (List.cons_ne_nil _ _) hne w.not_ends_mark fun c hc => ht c hc ▸ hmark
  have hcapital : "Test".toList ≠ w.text := fun h =>
    w.not_mem_text (x := 'T') (by decide) (by decide) (h ▸ List.mem_cons_self)
  rw [withoutStarts, List.foldl_cons, List.foldl_cons, List.foldl_cons, List.foldl_nil,
    hkept "test" (by decide) w.ne_test.symm (by decide),
    hkept "Test" (by decide) hcapital (by decide),
    hkept "should" (by decide) w.ne_should.symm (by decide)]

/-- A word has no start that is taken off. -/
theorem withoutStarts_text : withoutStarts w.text = w.text := by
  have hself := withoutStarts_text_append w (t := []) nofun
  rwa [List.append_nil] at hself

/-- No start is taken off a capitalized word, alone or in front of the mark `Test`. -/
private theorem dropStart_capitalized (ht : ∀ c ∈ t.head?, c = 'T') :
    dropStart (w.capitalized ++ t) "test" = w.capitalized ++ t ∧
      dropStart (w.capitalized ++ t) "Test" = w.capitalized ++ t ∧
      dropStart (w.capitalized ++ t) "should" = w.capitalized ++ t := by
  have hkept (start : String) (hstart : start.toList ≠ []) (hne : start.toList ≠ w.capitalized)
      (hmark : 'T' ∉ start.toList.tail) :
      dropStart (w.capitalized ++ t) start = w.capitalized ++ t :=
    dropStart_eq_self hstart (List.cons_ne_nil _ _) hne w.not_ends_mark fun c hc => ht c hc ▸ hmark
  have hsmall (start : String) (hstart : start.toList.head?.any isAsciiUpper = false) :
      start.toList ≠ w.capitalized := by
    intro h
    rw [h, TestedWord.capitalized, List.head?_cons, Option.any_some, w.isAsciiUpper_first] at hstart
    cases hstart
  have hcapital : "Test".toList ≠ w.capitalized := by
    intro h
    apply w.ne_test
    rw [← TestedWord.text, ← w.map_capitalized, ← h]
    rfl
  exact ⟨hkept "test" (by decide) (hsmall "test" rfl) (by decide),
    hkept "Test" (by decide) hcapital (by decide),
    hkept "should" (by decide) (hsmall "should" rfl) (by decide)⟩

/-- A capitalized word with `Test` behind it has no start that is taken off. -/
theorem withoutStarts_capitalized_append :
    withoutStarts (w.capitalized ++ "Test".toList) = w.capitalized ++ "Test".toList := by
  obtain ⟨htest, hTest, hshould⟩ := dropStart_capitalized w (t := "Test".toList) fun c hc =>
    (Option.some.inj hc).symm
  rw [withoutStarts, List.foldl_cons, List.foldl_cons, List.foldl_cons, List.foldl_nil, htest,
    hTest, hshould]

/-- A mark in camel case is taken off in front of a capitalized word. -/
theorem withoutStarts_camel :
    withoutStarts ("test".toList ++ w.capitalized) = w.capitalized ∧
      withoutStarts ("Test".toList ++ w.capitalized) = w.capitalized ∧
      withoutStarts ("should".toList ++ w.capitalized) = w.capitalized := by
  obtain ⟨-, hTest, hshould⟩ := dropStart_capitalized w (t := []) nofun
  rw [List.append_nil] at hTest hshould
  have hmark (start : String) : dropStart (start.toList ++ w.capitalized) start = w.capitalized :=
    dropStart_append start w.isAsciiUpper_first
  have hother : dropStart ("Test".toList ++ w.capitalized) "test" =
      "Test".toList ++ w.capitalized := dropStart_of_head_ne rfl (by decide)
  have hother' : dropStart ("should".toList ++ w.capitalized) "test" =
      "should".toList ++ w.capitalized := dropStart_of_head_ne rfl (by decide)
  have hother'' : dropStart ("should".toList ++ w.capitalized) "Test" =
      "should".toList ++ w.capitalized := dropStart_of_head_ne rfl (by decide)
  refine ⟨?_, ?_, ?_⟩
  · rw [withoutStarts, List.foldl_cons, List.foldl_cons, List.foldl_cons, List.foldl_nil,
      hmark "test", hTest, hshould]
  · rw [withoutStarts, List.foldl_cons, List.foldl_cons, List.foldl_cons, List.foldl_nil, hother,
      hmark "Test", hshould]
  · rw [withoutStarts, List.foldl_cons, List.foldl_cons, List.foldl_cons, List.foldl_nil, hother',
      hother'', hmark "should"]

/-- No ending is taken off what ends in letters and digits of a word. -/
private theorem dropEnding_word (hs : s.tail = w.rest) :
    dropEnding s "_test" = s ∧ dropEnding s "Test" = s ∧ dropEnding s "_should" = s := by
  have hunderscore : '_' ∉ s.tail := hs ▸ w.not_mem_rest (by decide) (by decide)
  have hcapital : 'T' ∉ s.tail := hs ▸ w.not_mem_rest (by decide) (by decide)
  exact ⟨dropEnding_eq_self "test".toList rfl hunderscore,
    dropEnding_eq_self "est".toList rfl hcapital,
    dropEnding_eq_self "should".toList rfl hunderscore⟩

/-- A word has no ending that is taken off, with any first letter. -/
theorem withoutEndings_eq_self (hs : s.tail = w.rest) : withoutEndings s = s := by
  obtain ⟨hsnake, hcamel, hshould⟩ := dropEnding_word w hs
  rw [withoutEndings, List.foldl_cons, List.foldl_cons, List.foldl_cons, List.foldl_nil, hsnake,
    hcamel, hshould]

/-- A mark is taken off behind a word. -/
theorem withoutEndings_snake : withoutEndings (w.text ++ "_test".toList) = w.text := by
  obtain ⟨-, hcamel, hshould⟩ := dropEnding_word w (s := w.text) rfl
  have hmark (ending : String) : dropEnding (w.text ++ ending.toList) ending = w.text :=
    dropEnding_append (List.cons_ne_nil _ _) ending
  rw [withoutEndings, List.foldl_cons, List.foldl_cons, List.foldl_cons, List.foldl_nil,
    hmark "_test", hcamel, hshould]

/-- A mark is taken off behind a capitalized word. -/
theorem withoutEndings_camel : withoutEndings (w.capitalized ++ "Test".toList) = w.capitalized := by
  obtain ⟨-, -, hshould⟩ := dropEnding_word w (s := w.capitalized) rfl
  have hmark (ending : String) : dropEnding (w.capitalized ++ ending.toList) ending =
      w.capitalized := dropEnding_append (List.cons_ne_nil _ _) ending
  have hunderscore : '_' ∉ w.rest ++ "Test".toList := by
    rw [List.mem_append, not_or]
    exact ⟨w.not_mem_rest (by decide) (by decide), by decide⟩
  have hother : dropEnding (w.capitalized ++ "Test".toList) "_test" =
      w.capitalized ++ "Test".toList := dropEnding_eq_self "test".toList rfl hunderscore
  rw [withoutEndings, List.foldl_cons, List.foldl_cons, List.foldl_cons, List.foldl_nil, hother,
    hmark "Test", hshould]

end Stages

/-! ## Names -/

section Names

variable (w : TestedWord)

/-- No name of a test begins or ends with a blank. -/
private theorem trim_name (k : Convention) : trim (k.name w) = k.name w := by
  have htext : ∀ c ∈ w.text, isBlank c = false := w.forall_mem_text (by decide) (by decide)
  have hcapitalized : ∀ c ∈ w.capitalized, isBlank c = false :=
    w.forall_mem_capitalized (by decide) (by decide) (by decide)
  have hmark {mark : List Char} (h : (mark.all fun c => isBlank c = false) = true) :
      ∀ c ∈ mark, isBlank c = false := List.all_iff_forall_prop.mp h
  have hname : ∀ c ∈ k.name w, isBlank c = false := by
    cases k with
    | testSnake => exact List.forall_mem_append.mpr ⟨hmark (by decide), htext⟩
    | testCamel => exact List.forall_mem_append.mpr ⟨hmark (by decide), hcapitalized⟩
    | testPascal => exact List.forall_mem_append.mpr ⟨hmark (by decide), hcapitalized⟩
    | shouldSnake => exact List.forall_mem_append.mpr ⟨hmark (by decide), htext⟩
    | shouldCamel => exact List.forall_mem_append.mpr ⟨hmark (by decide), hcapitalized⟩
    | snakeTest => exact List.forall_mem_append.mpr ⟨htext, hmark (by decide)⟩
    | pascalTest => exact List.forall_mem_append.mpr ⟨hcapitalized, hmark (by decide)⟩
  exact trim_eq_self (fun c hc => hname c (List.mem_of_mem_head? hc))
    fun c hc => hname c (List.mem_of_getLast? hc)

/-- Every convention leaves the word. -/
theorem normalizeName_name (k : Convention) : normalizeName (k.name w) = w.text := by
  have htrim := trim_name w k
  have hplain {mark : List Char} (hunderscore : '_' ∉ mark) (hspace : ' ' ∉ mark) :
      withoutFolded (mark ++ w.capitalized) = mark ++ w.capitalized := by
    apply withoutFolded_eq_self
    · rw [List.mem_append, not_or]
      exact ⟨hunderscore, w.not_mem_capitalized (by decide) (by decide) (by decide)⟩
    · rw [List.mem_append, not_or]
      exact ⟨hspace, w.not_mem_capitalized (by decide) (by decide) (by decide)⟩
  have hplain' : withoutFolded (w.capitalized ++ "Test".toList) =
      w.capitalized ++ "Test".toList := by
    apply withoutFolded_eq_self
    · rw [List.mem_append, not_or]
      exact ⟨w.not_mem_capitalized (by decide) (by decide) (by decide), by decide⟩
    · rw [List.mem_append, not_or]
      exact ⟨w.not_mem_capitalized (by decide) (by decide) (by decide), by decide⟩
  obtain ⟨htestSnake, hshouldSnake⟩ := withoutFolded_snake w
  obtain ⟨htest, hTest, hshould⟩ := withoutStarts_camel w
  have hstarted := withoutStarts_text w
  have hended : withoutEndings w.text = w.text := withoutEndings_eq_self w rfl
  have hended' : withoutEndings w.capitalized = w.capitalized := withoutEndings_eq_self w rfl
  cases k with
  | testSnake =>
    exact (normalizeName_of_stages htrim htestSnake hstarted hended).trans w.lower_text
  | testCamel =>
    exact (normalizeName_of_stages htrim (hplain (by decide) (by decide)) htest hended').trans
      w.lower_capitalized
  | testPascal =>
    exact (normalizeName_of_stages htrim (hplain (by decide) (by decide)) hTest hended').trans
      w.lower_capitalized
  | shouldSnake =>
    exact (normalizeName_of_stages htrim hshouldSnake hstarted hended).trans w.lower_text
  | shouldCamel =>
    exact (normalizeName_of_stages htrim (hplain (by decide) (by decide)) hshould hended').trans
      w.lower_capitalized
  | snakeTest =>
    exact (normalizeName_of_stages htrim (withoutFolded_text_append w)
      (withoutStarts_text_append w fun c hc => (Option.some.inj hc).symm)
      (withoutEndings_snake w)).trans w.lower_text
  | pascalTest =>
    exact (normalizeName_of_stages htrim hplain' (withoutStarts_capitalized_append w)
      (withoutEndings_camel w)).trans w.lower_capitalized

end Names

/-! ## Pairs -/

section Pairs

variable {methods : List Method} {t : TestCase} {m : Method} {i : Nat}

/-- The first method with the normalised name of a test is its pair. -/
theorem pairOf?_of_first {w : TestedWord} (hname : normalizeName t.name.toList = w.text)
    (hm : methods[i]? = some m) (hlower : lower m.name.toList = w.text)
    (hfirst : ∀ j < i, ∀ m', methods[j]? = some m' → lower m'.name.toList ≠ w.text) :
    pairOf? methods t = some ⟨t, m, 0.9, .namingConvention⟩ := by
  have hne : normalizeName t.name.toList ≠ [] := hname ▸ List.cons_ne_nil _ _
  refine pairOf?_eq_some_iff.mpr ⟨.equal, i, m, ⟨hm, ⟨hne, hlower.trans hname.symm⟩, ?_, ?_⟩, rfl⟩
  · intro j hj m' hm' hholds
    exact hfirst j hj m' hm' (hholds.2.trans hname)
  · intro r hr
    exact absurd hr (Nat.not_lt_zero _)

/-- A test that is named after a word by any of the conventions normalises to the word, also where
the word itself begins or ends like a mark. Among any tests such a test is paired with the first
method whose name in lower case is the word, with the confidence of equal names. -/
theorem conventions_pair_with_word (w : TestedWord) (k : Convention) :
    normalizeName (k.name w) = w.text ∧
      ∀ (before after : List TestCase) (methods : List Method) (t : TestCase) (m : Method)
        (i : Nat), t.name.toList = k.name w → methods[i]? = some m → lower m.name.toList = w.text →
        (∀ j < i, ∀ m', methods[j]? = some m' → lower m'.name.toList ≠ w.text) →
        pairs (before ++ t :: after) methods =
          pairs before methods ++ ⟨t, m, 0.9, .namingConvention⟩ :: pairs after methods := by
  refine ⟨normalizeName_name w k, ?_⟩
  intro before after methods t m i ht hm hlower hfirst
  have hname : normalizeName t.name.toList = w.text := by rw [ht, normalizeName_name]
  have hpair := pairOf?_of_first hname hm hlower hfirst
  have hpairs : ∀ tests, pairs tests methods = tests.filterMap (pairOf? methods) := fun _ => rfl
  rw [hpairs, hpairs, hpairs, List.filterMap_append, List.filterMap_cons_some hpair]

/-- A word that itself begins like a mark, and the second of two methods has its name. -/
theorem marked_word_pairs :
    ∃ (w : TestedWord) (t : TestCase) (m other : Method),
      w.text = "testable".toList ∧ t.name = "testTestable" ∧ m.name = "testAble" ∧
        normalizeName "testTestable".toList = "testable".toList ∧
        pairs [t] [other, m] = [⟨t, m, 0.9, .namingConvention⟩] := by
  let w : TestedWord := ⟨'t', "estable".toList, by decide,
    List.all_iff_forall_prop.mp (by decide), by decide, by decide⟩
  let t : TestCase := ⟨"testTestable", default, 1, 1, default, [], "testable();"⟩
  let m : Method := ⟨"testAble", default, 1, 1, [], none, "", none⟩
  let other : Method := ⟨"able", default, 1, 1, [], none, "", none⟩
  obtain ⟨hname, hpair⟩ := conventions_pair_with_word w .testCamel
  have hw : 't' :: "estable".toList = "testable".toList := by decide
  have ht : "testTestable".toList = "test".toList ++ 't'.toUpper :: "estable".toList := by decide
  have hm : lower "testAble".toList = 't' :: "estable".toList := by decide
  refine ⟨w, t, m, other, hw, rfl, rfl, (congrArg normalizeName ht).trans (hname.trans hw), ?_⟩
  refine hpair [] [] [other, m] t m 1 ht rfl hm ?_
  intro j hj m' hm'
  obtain rfl : j = 0 := Nat.lt_one_iff.mp hj
  obtain rfl := Option.some.inj hm'
  show lower "able".toList ≠ 't' :: "estable".toList
  decide

end Pairs

end Pairing

end Adjudicator
