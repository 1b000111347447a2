import Adjudicator.Assistant.Prompt
import Adjudicator.Divergence.Reply
import Adjudicator.Proofs.Pattern.Avoided
import Adjudicator.Proofs.Value.Signed
import Adjudicator.Verdict.Classification

/-!
# Replies with two numbers

A reply in the form that is asked for names the number that a test expects and the one that the
code returns. Main statement: whatever the two numbers are, the reply is read as a mismatch of
returned values with these two numbers; and where neither has a fraction, its summary is the whole
sentence, of which two hundred characters are kept.
-/

namespace Adjudicator

open Text Pattern Value

namespace Text

/-- The first piece ends at the first separator. -/
theorem splitWhere_append {p : Char → Bool} {w rest : List Char} {x : Char}
    (hw : ∀ c ∈ w, p c = false) (hx : p x = true) :
    splitWhere p (w ++ x :: rest) = w :: splitWhere p rest := by
  induction w with
  | nil => rw [List.nil_append, splitWhere, if_pos hx]
  | cons c w ih =>
    obtain ⟨hc, hw⟩ := List.forall_mem_cons.mp hw
    rw [List.cons_append, splitWhere, if_neg (by rw [hc]; exact Bool.false_ne_true), ih hw]

end Text

namespace Reply

/-! ## Words of replies -/

/-- The phrases that deny a divergence. -/
def denials : List String :=
  ["no divergence", "no mismatch", "no discrepancy", "does not diverge", "doesn't diverge",
    "matches the implementation", "matches the code", "is consistent with", "are consistent with",
    "no issues", "no issue"]

/-- The words that speak of errors. -/
def errors : List String :=
  ["exception", "throws", "throw", "thrown", "raises", "raise", "error"]

private theorem reads_before (w : String) (endings : List String) :
    (anyCase w ++ anyWord endings).Reads (spelling (endings.map (w ++ ·))) := by
  rw [← folded_mul_spelling]
  exact reads_append (reads_anyCase w) (reads_choice_anyCase endings)

private theorem reads_behind (words : List String) (ending : String) :
    (anyWord words ++ anyCase ending).Reads (spelling (words.map (· ++ ending))) := by
  rw [← spelling_mul_folded]
  exact reads_append (reads_choice_anyCase words) (reads_anyCase ending)

/-- Nothing is denied in a text that all words of a denial clash with. -/
theorem denial_found_eq_false {s : List Char}
    (h : ∀ v ∈ denials, v.toList ≠ [] ∧ Avoids v.toList s) : denial.found s = false :=
  found_eq_false_of_avoids (reads_choice_spelling
    (.cons (reads_before "no " ["divergence", "mismatch", "discrepancy"])
    (.cons (reads_word "does not diverge")
    (.cons (reads_word "doesn't diverge")
    (.cons (reads_before "matches the " ["implementation", "code"])
    (.cons (reads_behind ["is", "are"] " consistent with")
    (.cons (reads_anyCase_opt "no issue" ["s"]) .nil))))))) h

/-- No error is spoken of in a text that all words of an error clash with. -/
theorem errorTalk_found_eq_false {s : List Char}
    (h : ∀ v ∈ errors, v.toList ≠ [] ∧ Avoids v.toList s) : errorTalk.found s = false :=
  found_eq_false_of_avoids (reads_choice_spelling
    (.cons (reads_word "exception")
    (.cons (reads_anyCase_opt "throw" ["s"])
    (.cons (reads_word "thrown")
    (.cons (reads_anyCase_opt "raise" ["s"])
    (.cons (reads_word "error") .nil)))))) h

/-- A text that begins with the word for a mismatch claims one. -/
theorem claim_found (rest : List Char) : claim.found ("Mismatch:".toList ++ rest) = true :=
  rfl

/-! ## Values behind verbs -/

/-- The characters of numbers. -/
def isLiteralChar (c : Char) : Bool :=
  "-.0123456789".toList.contains c

/-- Whether a word begins like no number. -/
def beginsNoNumber (word : String) : Bool :=
  "-.0123456789".toList.all fun c => clash word.toList [c] = true

section Words

variable {word : String}

/-- A word that begins like no number clashes with every character of a number. -/
theorem clash_of_beginsNoNumber (h : beginsNoNumber word = true) :
    ∀ c ∈ "-.0123456789".toList, clash word.toList [c] = true :=
  List.all_iff_forall_prop.mp h

/-- A word that begins like no number is nowhere in a number. -/
theorem avoids_number (h : beginsNoNumber word = true) (x : SignedLiteral) :
    Avoids word.toList x.text :=
  avoids_of_chars (x.forall_mem_text h)

/-- No form of a word that begins like no number fits in front of a character of a number. -/
theorem rejects_anyCase (h : beginsNoNumber word = true) :
    (anyCase word).Rejects isLiteralChar := fun _ x _ hc hx =>
  tryAt_anyCase_none (w := [x]) (clash_of_beginsNoNumber h x (List.contains_iff_mem.mp hx)) hc

end Words

/-- What stands between a verb and the number, where it is there. -/
def article : Pattern :=
  opt (choice [anyCase "a" ++ space, anyCase "an" ++ space, anyCase "the" ++ space])

/-- The word for a value, where it is there. -/
def valueWord : Pattern :=
  opt (anyCase "value" ++ space ++ opt (anyCase "of" ++ space))

/-- The quote of a value, where it is there. -/
def valueQuote : Pattern :=
  opt (one (· == Code.backtick))

/-- A number or a word. -/
def value : Pattern :=
  choice [opt "-" ++ decimal, word]

/-- What is behind the verb. -/
def behindVerb : Pattern :=
  space ++ (article ++ (valueWord ++ (valueQuote ++ (group 1 value ++ valueQuote))))

/-- One of several verbs. -/
def anyVerb (verbs : List String) : Pattern :=
  choice (verbs.map fun verb => anyCase verb ++ opt (anyCase "s"))

/-- The forms of several verbs. -/
def verbForms (verbs : List String) : List String :=
  (verbs.map fun verb => [verb ++ "s", verb ++ ""]).flatten

/-- A value behind a verb is looked for at the boundary of a word: first the verb, then the value.
-/
theorem tryAt_valueBehind (verbs : List String) :
    (valueBehind verbs).tryAt = (boundary ++ (anyVerb verbs ++ behindVerb)).tryAt :=
  rfl

/-- The words of the verbs are their spellings in all their forms. -/
theorem reads_anyVerb (verbs : List String) :
    (anyVerb verbs).Reads (spelling (verbForms verbs)) := by
  refine reads_choice_spelling ?_
  rw [List.forall₂_map_left_iff, List.forall₂_map_right_iff, List.forall₂_same]
  exact fun verb _ => reads_anyCase_opt verb ["s"]

section Values

variable (x : SignedLiteral) {rest : List Char}

/-- A number begins with a sign or a digit. -/
theorem exists_head_eq : ∃ y t, x.text = y :: t ∧ isLiteralChar y = true := by
  obtain ⟨y, t, htext⟩ := List.exists_cons_of_ne_nil x.text_ne_nil
  refine ⟨y, t, htext, x.forall_mem_text (P := fun c => isLiteralChar c = true) (by decide) y ?_⟩
  rw [htext]
  exact List.mem_cons_self

/-- The pattern of a number takes a whole number up to a character that does not go on with it. -/
theorem takes_decimal (x : DecimalLiteral) (hrest : ∀ y ∈ rest.head?, isDigit y = false)
    (hpoint : ∀ t, rest = '.' :: t → ∀ z ∈ t.head?, isDigit z = false) :
    decimal.Takes x.text rest :=
  fun _ hc => DecimalLiteral.tryAt_decimal hc hrest hpoint

/-- A value that begins with a number is this number. -/
theorem takes_value (hrest : ∀ y ∈ rest.head?, isDigit y = false)
    (hpoint : ∀ t, rest = '.' :: t → ∀ z ∈ t.head?, isDigit z = false) :
    value.Takes x.text rest := by
  have hminus : (opt "-").Takes x.sign (x.size.text ++ rest) := by
    rw [SignedLiteral.sign]
    cases x.negative with
    | true => exact (takes_text "-").either
    | false =>
      obtain ⟨y, t, hwhole⟩ := List.exists_cons_of_ne_nil x.size.whole.nonempty
      have hy : isDigit y = true := x.size.whole.isDigit_of_mem (hwhole ▸ List.mem_cons_self)
      have hsplit : x.size.text ++ rest = y :: (t ++ x.size.tail ++ rest) := by
        rw [DecimalLiteral.text, hwhole, List.cons_append, List.cons_append]
      have hrejects : (Pattern.text "-").Rejects isDigit := rejects_text rfl (by decide)
      rw [if_neg Bool.false_ne_true, hsplit]
      exact hrejects.takes_opt hy
  exact (hminus.append (takes_decimal x.size hrest hpoint)).either

/-- A number behind a verb is recorded. -/
theorem behindVerb_records (hrest : ∀ y ∈ rest.head?, isDigit y = false ∧ y ≠ Code.backtick)
    (hpoint : ∀ t, rest = '.' :: t → ∀ z ∈ t.head?, isDigit z = false) :
    behindVerb.Records (' ' :: x.text) rest [(1, [' '], x.text)] := by
  obtain ⟨y, t, htext, hy⟩ := exists_head_eq x
  have hblank : isBlank y = false := by
    refine x.forall_mem_text (P := fun c => isBlank c = false) (by decide) y ?_
    rw [htext]
    exact List.mem_cons_self
  have hspace : space.Takes [' '] (x.text ++ rest) := by
    refine takes_plus_one (List.cons_ne_nil _ _) (List.forall_mem_singleton.mpr rfl) fun c hc => ?_
    rw [htext] at hc
    obtain rfl := Option.some.inj hc
    exact hblank
  have hskips {p : Pattern} (hp : p.Rejects isLiteralChar) : p.opt.Takes [] (x.text ++ rest) := by
    rw [htext]
    exact hp.takes_opt hy
  have harticle : article.Takes [] (x.text ++ rest) := hskips
    ((rejects_anyCase (by decide)).append.either
      ((rejects_anyCase (by decide)).append.either (rejects_anyCase (by decide)).append))
  have hword : valueWord.Takes [] (x.text ++ rest) :=
    hskips (rejects_anyCase (by decide)).append.append
  have hquote : valueQuote.Takes [] (x.text ++ rest) := hskips (rejects_one fun c hc => by
    have hchars : ∀ c ∈ "-.0123456789".toList, (c == Code.backtick) = false :=
      List.all_iff_forall_prop.mp (by decide)
    exact hchars c (List.contains_iff_mem.mp hc))
  have hclosing : valueQuote.Takes [] rest := by
    intro c hc
    obtain rfl : c.rest = rest := hc
    exact tryAt_opt_none (tryAt_one_none fun z hz => beq_false_of_ne (hrest z hz).2)
  have hvalue : (group 1 value ++ valueQuote).Records x.text rest [(1, [], x.text)] := by
    have hrecorded := ((takes_value x (fun z hz => (hrest z hz).1) hpoint).records_group 1).append
      hclosing.records
    rwa [List.append_nil] at hrecorded
  exact hspace.records.append (harticle.records.append (hword.records.append
    (hquote.records.append hvalue)))

/-- Of several verbs the first is taken in its longer form. -/
theorem takes_anyVerb (verb : String) (others : List String) (rest : List Char) :
    (anyVerb (verb :: others)).Takes (verb.toList ++ ['s']) rest := by
  have hending : (anyCase "s").Takes ['s'] rest := takes_anyCase (by decide)
  have hverb : (anyCase verb ++ opt (anyCase "s")).Takes (verb.toList ++ ['s']) rest := by
    refine (takes_anyCase (List.forall₂_same.mpr fun c _ => ?_)).append hending.either
    rw [sameFolded, beq_self_eq_true, Bool.true_or, Bool.true_or, Bool.true_or]
  cases others with
  | nil => exact hverb
  | cons => exact hverb.either

/-- The first place of a verb in a text is its first match, and the number behind it the group. -/
theorem exists_find?_valueBehind (verb : String) (others : List String) {front : List Char}
    (hfront : ∀ v ∈ verbForms (verb :: others), Avoids v.toList front)
    (hbefore : front.getLast?.any isWord = false) (hverb : verb.toList.head?.any isWord = true)
    (hrest : ∀ y ∈ rest.head?, isDigit y = false ∧ y ≠ Code.backtick)
    (hpoint : ∀ t, rest = '.' :: t → ∀ z ∈ t.head?, isDigit z = false) :
    ∃ m, (valueBehind (verb :: others)).find?
        (front ++ (verb.toList ++ ['s'] ++ ' ' :: x.text ++ rest)) = some m ∧
      m.group 1 = x.text := by
  have hrecords := (takes_anyVerb verb others (' ' :: x.text ++ rest)).records.append
    (behindVerb_records x hrest hpoint)
  have hne : verb.toList ≠ [] := by
    intro hnil
    rw [hnil] at hverb
    cases hverb
  have hlook : ((Cursor.between front (verb.toList ++ ['s'] ++ ' ' :: x.text ++ rest)).prev.any
      isWord != (Cursor.between front
        (verb.toList ++ ['s'] ++ ' ' :: x.text ++ rest)).rest.head?.any isWord) = true := by
    simp only [Cursor.between, List.append_assoc, List.head?_append_of_ne_nil _ hne, hbefore, hverb]
    rfl
  have hplace := (congrFun (tryAt_valueBehind (verb :: others)) _).trans
    (tryAt_append (tryAt_look hlook) (hrecords _ rfl))
  refine ⟨_, find?_of_between ?_ hplace, ?_⟩
  · rintro f b rfl hb
    rw [tryAt_valueBehind]
    refine tryAt_eq_none_iff.mpr fun d hd => ?_
    obtain ⟨c, hc, hd⟩ := mem_offers_append.mp hd
    obtain ⟨-, rfl⟩ := mem_offers_look.mp hc
    have hverbs : (anyVerb (verb :: others)).tryAt
        (.between f (b ++ (verb.toList ++ ['s'] ++ ' ' :: x.text ++ rest))) = none :=
      (reads_anyVerb _).tryAt_none fun v hv => clash_append (hfront v hv f b rfl hb) _
    exact tryAt_eq_none_iff.mp (tryAt_append_none hverbs) d hd
  · have hsplit : front ++ (verb.toList ++ ['s'] ++ ' ' :: x.text ++ rest) =
        front ++ (verb.toList ++ ['s'] ++ [' ']) ++ (x.text ++ rest) := by simp
    refine group_of_span? hsplit ?_
    simp [Match.span?, placeOf, Cursor.between]

/-- A first match with a number as its value decides. -/
theorem value?_of_find? {p : Pattern} {reply : List Char} {m : Match}
    (hfind : p.find? reply = some m) (hgroup : m.group 1 = x.text) :
    value? p reply = some x.text := by
  obtain ⟨ms, hall⟩ : ∃ ms, p.findAll reply = m :: ms :=
    List.head?_eq_some_iff.mp ((head?_findAll p reply).trans hfind)
  obtain ⟨y, t, hwhole⟩ := List.exists_cons_of_ne_nil x.size.whole.nonempty
  have hy : y ∈ x.text := by
    rw [SignedLiteral.text, DecimalLiteral.text, hwhole]
    simp
  have hdigit : (m.group 1).any isDigit = true := by
    rw [hgroup, List.any_eq_true]
    exact ⟨y, hy, x.size.whole.isDigit_of_mem (hwhole ▸ List.mem_cons_self)⟩
  have hfirst (others : List (List Char)) :
      (m.group 1 :: others).find? (fun v => v.any isDigit) = some (m.group 1) :=
    List.find?_cons_of_pos hdigit
  rw [value?, hall, List.map_cons, hfirst, hgroup]

end Values

/-! ## Replies -/

section Replies

variable (e a : SignedLiteral)

/-- What is in front of the two numbers. -/
def expecting : String :=
  "Mismatch: the test expects "

/-- What is between them. -/
def returning : String :=
  " but the code returns "

/-- The sentence with two numbers, without its point. -/
def sentence : List Char :=
  expecting.toList ++ (e.text ++ (returning.toList ++ a.text))

/-- The reply in the form that is asked for. -/
def mismatch : List Char :=
  sentence e a ++ ['.']

/-- Words that clash with the fixed parts of a reply and begin like no number are nowhere in it. -/
theorem avoids_mismatch {words : List String}
    (h : ∀ v ∈ words, Avoids v.toList expecting.toList ∧ Avoids v.toList returning.toList ∧
      beginsNoNumber v = true) :
    ∀ v ∈ words, v.toList ≠ [] ∧ Avoids v.toList (mismatch e a) := by
  intro v hv
  obtain ⟨hexpecting, hreturning, hnumber⟩ := h v hv
  have hpoint : clash v.toList ['.'] = true := clash_of_beginsNoNumber hnumber '.' (by decide)
  have hnumbers := avoids_number hnumber
  refine ⟨fun hnil => ?_, ?_⟩
  · rw [hnil] at hpoint
    cases hpoint
  · exact (hexpecting.append ((hnumbers e).append (hreturning.append (hnumbers a)))).append
      (avoids_of_chars (List.forall_mem_singleton.mpr hpoint))

/-- A reply that is in the form asked for claims a mismatch. -/
theorem indicates_mismatch : indicates (mismatch e a) = true := by
  have hdenial : denial.found (mismatch e a) = false :=
    denial_found_eq_false (avoids_mismatch e a (by decide +kernel))
  have hclaim : claim.found (mismatch e a) = true := claim_found _
  rw [indicates, hclaim, hdenial]
  rfl

/-- The expected value is read back from a reply that is in the form asked for. -/
theorem value?_expectedValue : value? expectedValue (mismatch e a) = some e.text := by
  have hword : expecting.toList =
      "Mismatch: the test ".toList ++ ("expect".toList ++ ['s'] ++ [' ']) := by decide
  have hreply : mismatch e a = "Mismatch: the test ".toList ++ ("expect".toList ++ ['s'] ++
      ' ' :: e.text ++ (returning.toList ++ (a.text ++ ['.']))) := by
    rw [mismatch, sentence, hword]
    simp only [List.append_assoc, List.cons_append, List.nil_append]
  have hfront : ∀ v ∈ verbForms ["expect"], Avoids v.toList "Mismatch: the test ".toList := by
    decide
  have hrest : ∀ y ∈ (returning.toList ++ (a.text ++ ['.'])).head?,
      isDigit y = false ∧ y ≠ Code.backtick := by
    intro y hy
    obtain rfl := Option.some.inj hy
    decide
  have hpoint : ∀ t, returning.toList ++ (a.text ++ ['.']) = '.' :: t →
      ∀ z ∈ t.head?, isDigit z = false := fun t ht => absurd (List.cons.inj ht).1 (by decide)
  obtain ⟨m, hfind, hgroup⟩ := exists_find?_valueBehind e "expect" [] hfront (by decide)
    (by decide) hrest hpoint
  rw [hreply]
  exact value?_of_find? e hfind hgroup

/-- The returned value is read back from a reply that is in the form asked for. -/
theorem value?_returnedValue : value? returnedValue (mismatch e a) = some a.text := by
  have hword : returning.toList =
      " but the code ".toList ++ ("return".toList ++ ['s'] ++ [' ']) := by decide
  have hreply : mismatch e a = expecting.toList ++ (e.text ++ " but the code ".toList) ++
      ("return".toList ++ ['s'] ++ ' ' :: a.text ++ ['.']) := by
    rw [mismatch, sentence, hword]
    simp only [List.append_assoc, List.cons_append, List.nil_append]
  have hforms : ∀ v ∈ verbForms ["return", "produce", "compute", "yield"],
      Avoids v.toList expecting.toList ∧ Avoids v.toList " but the code ".toList ∧
        beginsNoNumber v = true := by
    decide
  have hfront : ∀ v ∈ verbForms ["return", "produce", "compute", "yield"],
      Avoids v.toList (expecting.toList ++ (e.text ++ " but the code ".toList)) := by
    intro v hv
    obtain ⟨hbefore, hbetween, hnumber⟩ := hforms v hv
    exact hbefore.append ((avoids_number hnumber e).append hbetween)
  have hborder : (expecting.toList ++ (e.text ++ " but the code ".toList)).getLast?.any isWord =
      false := by
    have hlast : " but the code ".toList.getLast? = some ' ' := by decide
    rw [List.getLast?_append, List.getLast?_append, hlast]
    rfl
  have hpoint : ∀ t, ['.'] = '.' :: t → ∀ z ∈ t.head?, isDigit z = false := by
    rintro _ ⟨⟩
    nofun
  have hrest : ∀ y ∈ ['.'].head?, isDigit y = false ∧ y ≠ Code.backtick := by
    intro y hy
    obtain rfl := Option.some.inj hy
    decide
  obtain ⟨m, hfind, hgroup⟩ := exists_find?_valueBehind a "return" ["produce", "compute", "yield"]
    hfront hborder (by decide) hrest hpoint
  rw [hreply]
  exact value?_of_find? a hfind hgroup

/-! ## Summaries -/

/-- A text of which two hundred characters are kept. -/
def shortened (s : List Char) : List Char :=
  if summaryLength < s.length then s.take summaryLength ++ "...".toList else s

/-- A number without a fraction has no decimal point. -/
theorem point_not_mem_text {x : SignedLiteral} (hx : x.size.fraction = none) : '.' ∉ x.text := by
  have hsize := x.size.not_contains_point
  rw [hx, Option.isNone_none, Bool.not_eq_true', List.contains_eq_mem,
    decide_eq_false_iff_not] at hsize
  rw [SignedLiteral.text, SignedLiteral.sign, List.mem_append, not_or]
  refine ⟨?_, hsize⟩
  split <;> decide

/-- Without fractions a sentence has no point and no line feed. -/
theorem not_separator_of_mem_sentence (he : e.size.fraction = none) (ha : a.size.fraction = none) :
    ∀ c ∈ sentence e a, (c == '.' || c == '\n') = false := by
  have hliteral {x : SignedLiteral} (hx : x.size.fraction = none) :
      ∀ c ∈ x.text, (c == '.' || c == '\n') = false := by
    intro c hc
    have hpoint : c ≠ '.' := by
      rintro rfl
      exact point_not_mem_text hx hc
    have hline : c ≠ '\n' := x.forall_mem_text (P := fun c => c ≠ '\n') (by decide) c hc
    rw [beq_false_of_ne hpoint, beq_false_of_ne hline]
    rfl
  have hbefore : ∀ c ∈ expecting.toList, (c == '.' || c == '\n') = false :=
    List.all_iff_forall_prop.mp (by decide)
  have hbetween : ∀ c ∈ returning.toList, (c == '.' || c == '\n') = false :=
    List.all_iff_forall_prop.mp (by decide)
  exact List.forall_mem_append.mpr ⟨hbefore, List.forall_mem_append.mpr ⟨hliteral he,
    List.forall_mem_append.mpr ⟨hbetween, hliteral ha⟩⟩⟩

/-- The sentence with two numbers has no blanks around it. -/
theorem trim_sentence : trim (sentence e a) = sentence e a := by
  refine trim_eq_self (fun c hc => ?_) fun c hc => ?_
  · obtain rfl := Option.some.inj hc
    decide
  · have hlast := List.getLast?_eq_some_getLast a.text_ne_nil
    rw [sentence, List.getLast?_append, List.getLast?_append, List.getLast?_append, hlast,
      Option.some_or, Option.some_or, Option.some_or, ← hlast] at hc
    exact a.forall_mem_text (P := fun c => isBlank c = false) (by decide) c
      (List.mem_of_mem_getLast? hc)

/-- Without fractions the summary is the whole sentence, shortened. -/
theorem summary_mismatch (he : e.size.fraction = none) (ha : a.size.fraction = none) :
    summary (mismatch e a) = shortened (sentence e a) := by
  have hsplit : splitWhere (fun c => c == '.' || c == '\n') (mismatch e a) =
      sentence e a :: [[]] :=
    splitWhere_append (not_separator_of_mem_sentence e a he ha) (by decide)
  have hclaim : claim.found (sentence e a) = true := claim_found _
  have hfirst : ([sentence e a, []].map trim).find? claim.found = some (sentence e a) := by
    rw [List.map_cons, trim_sentence, List.find?_cons_of_pos hclaim]
  simp only [summary, hsplit, hfirst, Option.getD_some]
  rfl

/-! ## Findings -/

/-- The reply is read as a mismatch of returned values, also where the test expects an error. -/
theorem interpret?_mismatch (expectsError : Bool) : interpret? (mismatch e a) expectsError =
    some ⟨.returnValue, e.text, a.text, summary (mismatch e a), 0.85⟩ := by
  have herror : errorTalk.found (mismatch e a) = false :=
    errorTalk_found_eq_false (avoids_mismatch e a (by decide))
  simp only [interpret?, indicates_mismatch, value?_expectedValue, value?_returnedValue, herror,
    Bool.not_true, Bool.and_false, Bool.false_eq_true, if_false, Option.getD_some,
    Option.isSome_some, Bool.and_true, if_true]
  rfl

/-- A reply that is in the form asked for gives a mismatch of its two numbers, in every pair. -/
theorem detect?_mismatch (pair : Pair) : detect? pair (String.ofList (mismatch e a)) =
    some (.reported .assistant
      { kind := .returnValue, description := String.ofList (summary (mismatch e a))
        testLine := pair.test.firstAssertionLine, codeLine := pair.method.line
        expected := String.ofList e.text, actual := String.ofList a.text }
      0.85 "AI comparison reported a divergence") := by
  rw [detect?, String.toList_ofList, interpret?_mismatch]
  rfl

/-- Both numbers stand in the sentence. -/
theorem infix_sentence : e.text <:+: sentence e a ∧ a.text <:+: sentence e a := by
  constructor
  · exact ⟨expecting.toList, returning.toList ++ a.text, by simp [sentence]⟩
  · exact ⟨expecting.toList ++ (e.text ++ returning.toList), [], by simp [sentence]⟩

/-- A short sentence is its own summary. -/
theorem summary_of_short (he : e.size.fraction = none) (ha : a.size.fraction = none)
    (hlength : (sentence e a).length ≤ summaryLength) :
    summary (mismatch e a) = sentence e a := by
  rw [summary_mismatch e a he ha, shortened, if_neg (Nat.not_lt.mpr hlength)]

/-- What went wrong stands in the question for a fix, without the blanks around it. -/
theorem infix_fix (r : FixRequest) : trim r.error.toList <:+: (Prompt.fix r).toList := by
  unfold Prompt.fix
  simp only [String.toList_append, String.toList_ofList, List.append_assoc]
  exact (List.prefix_append _ _).isInfix.trans ((List.suffix_append _ _).trans
    ((List.suffix_append _ _).trans (List.suffix_append _ _))).isInfix

/-- A reply in the form that is asked for is read as a mismatch of returned values with its two
numbers, whatever they are. Its summary is the description of the divergence and the error of the
request for a fix. Where neither number has a fraction, the summary is the sentence without its
point, of which two hundred characters are kept; where it has no more, both numbers stand in it and
in the question for a fix. -/
theorem values_recovered (e a : SignedLiteral) :
    (∀ expectsError, ∃ f, interpret? (mismatch e a) expectsError = some f ∧
      f.kind = .returnValue ∧ f.expected = e.text ∧ f.actual = a.text ∧ f.confidence = 0.85 ∧
      f.summary = summary (mismatch e a)) ∧
    (∀ pair, ∃ d, detect? pair (String.ofList (mismatch e a)) = some d ∧
      d.divergence.map Divergence.description = some (String.ofList (summary (mismatch e a))) ∧
      ∀ (x : Analysis) (v : Verdict), x.detection = d →
        (Verdict.fixRequest x v).error = String.ofList (summary (mismatch e a))) ∧
    (e.size.fraction = none → a.size.fraction = none →
      summary (mismatch e a) = shortened (sentence e a) ∧
      ((sentence e a).length ≤ summaryLength →
        (e.text <:+: summary (mismatch e a) ∧ a.text <:+: summary (mismatch e a)) ∧
        ∀ r : FixRequest, r.error = String.ofList (summary (mismatch e a)) →
          e.text <:+: (Prompt.fix r).toList ∧ a.text <:+: (Prompt.fix r).toList)) := by
  refine ⟨fun expectsError => ?_, fun pair => ?_, fun he ha => ⟨summary_mismatch e a he ha, ?_⟩⟩
  · exact ⟨_, interpret?_mismatch e a expectsError, rfl, rfl, rfl, rfl, rfl⟩
  · refine ⟨_, detect?_mismatch e a pair, rfl, ?_⟩
    intro x v hx
    rw [Verdict.fixRequest, hx]
    rfl
  · intro hlength
    obtain ⟨hexpected, hactual⟩ := infix_sentence e a
    rw [summary_of_short e a he ha hlength]
    refine ⟨⟨hexpected, hactual⟩, fun r hr => ?_⟩
    have hfix := infix_fix r
    rw [hr, String.toList_ofList, trim_sentence] at hfix
    exact ⟨hexpected.trans hfix, hactual.trans hfix⟩

end Replies

/-- Two whole numbers, one of them negative. -/
theorem whole_numbers_recovered :
    ∃ e a : SignedLiteral, e.text = "90".toList ∧ a.text = "-85".toList ∧
      (∃ f, interpret? (mismatch e a) true = some f ∧ f.expected = e.text ∧ f.actual = a.text ∧
        f.summary = summary (mismatch e a)) ∧
      e.text <:+: summary (mismatch e a) ∧ a.text <:+: summary (mismatch e a) := by
  let e : SignedLiteral := ⟨false, ⟨⟨"90".toList, by decide, by decide⟩, none⟩⟩
  let a : SignedLiteral := ⟨true, ⟨⟨"85".toList, by decide, by decide⟩, none⟩⟩
  obtain ⟨hfindings, -, hsummary⟩ := values_recovered e a
  obtain ⟨f, hf, -, hexpected, hactual, -, hsentence⟩ := hfindings true
  have he : e.text = "90".toList := by
    show [] ++ ("90".toList ++ []) = _
    decide
  have ha : a.text = "-85".toList := by
    show ['-'] ++ ("85".toList ++ []) = _
    decide
  have hlength : (sentence e a).length ≤ summaryLength := by
    rw [sentence, he, ha]
    decide
  exact ⟨e, a, he, ha, ⟨f, hf, hexpected, hactual, hsentence⟩,
    ((hsummary rfl rfl).2 hlength).1⟩

/-- The summary ends at the point of a fraction, and a long number is cut. -/
theorem summary_loses_numbers :
    (∃ s, (interpret? "Mismatch: the test expects 1.5 but the code returns 2.".toList false).map
        Finding.summary = some s ∧ ¬"1.5".toList <:+: s) ∧
      ∃ s, (interpret? ("Mismatch: the test expects 1 but the code returns ".toList ++
        (List.replicate 200 '9' ++ ['.'])) false).map Finding.summary = some s ∧
          ¬List.replicate 200 '9' <:+: s :=
  ⟨⟨"Mismatch: the test expects 1".toList, by decide +kernel⟩,
    ⟨("Mismatch: the test expects 1 but the code returns ".toList ++
      List.replicate 200 '9').take 200 ++ "...".toList, by decide +kernel⟩⟩

end Reply

end Adjudicator
