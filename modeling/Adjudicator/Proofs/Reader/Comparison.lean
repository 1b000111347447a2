import Adjudicator.Proofs.Code.Arguments
import Adjudicator.Proofs.Pattern.Taken
import Adjudicator.Proofs.Reader.Equality
import Adjudicator.Proofs.Text.Lines
import Adjudicator.Reader.Python

/-!
# Compared expressions

An assert statement compares an expression with the one that is expected, and a message may follow
behind a comma. The first lazy group ends at the comparison and the second at the first comma, also
where the comma belongs to the expected expression. Main statement: each statement makes an
equality assertion of the whole expression under test and of the expected one up to its first
comma, so an expected expression is whole exactly where it has no comma.
-/

namespace Adjudicator

open Text Pattern

namespace Reader

namespace Python

/-! ## Statements -/

/-- The idiom of an assert statement that compares. -/
def comparison : Idiom :=
  ⟨assertOperand ++ gap ++ "==" ++ gap ++ group 2 dot.plusLazy ++ messageAndEnd, .equals,
    .group 2, .group 1, []⟩

/-- The reader knows the statement. -/
theorem comparison_mem_idioms : comparison ∈ idioms :=
  List.mem_cons_self

/-- An assert statement on one line that compares two expressions. -/
structure Comparison where
  /-- The blanks in front of it. -/
  indent : List Char
  /-- The expression under test. -/
  actual : List Char
  /-- The expected expression. -/
  expected : List Char
  /-- The message, where there is one. -/
  message : Option (List Char)
  /-- The indent is blank. -/
  indent_blank : ∀ c ∈ indent, isBlank c = true
  /-- It is on the line. -/
  indent_line : '\n' ∉ indent
  /-- There is an expression under test. -/
  actual_ne_nil : actual ≠ []
  /-- No blanks surround it. -/
  actual_trimmed : trim actual = actual
  /-- It has no comparison of its own. -/
  actual_plain : ¬"==".toList <:+: actual
  /-- It ends on the line. -/
  actual_line : '\n' ∉ actual
  /-- There is an expected expression. -/
  expected_ne_nil : expected ≠ []
  /-- No blanks surround it. -/
  expected_trimmed : trim expected = expected
  /-- No comma is in front of it. -/
  expected_head : expected.head? ≠ some ','
  /-- No comma is behind it. -/
  expected_last : expected.getLast? ≠ some ','
  /-- It ends on the line. -/
  expected_line : '\n' ∉ expected
  /-- A message has a character. -/
  message_filled : ∀ m ∈ message, blank m = false
  /-- It ends on the line. -/
  message_line : ∀ m ∈ message, '\n' ∉ m

namespace Comparison

variable (s : Comparison)

/-- What is behind the expected expression. -/
def tail : List Char :=
  match s.message with
  | none => []
  | some m => ", ".toList ++ m

/-- The line with the statement. -/
def text : List Char :=
  s.indent ++ "assert ".toList ++ (s.actual ++ (" == ".toList ++ (s.expected ++ s.tail)))

/-- The expected expression up to its first comma. -/
def compared : List Char :=
  trimEnd (s.expected.takeWhile (· ≠ ','))

/-- The expression under test begins with no blank. -/
theorem head_actual {c : Char} (hc : c ∈ s.actual.head?) : isBlank c = false := by
  rw [← s.actual_trimmed] at hc
  exact isBlank_of_mem_head?_trim hc

/-- The part that is read is a part of the expected expression. -/
theorem mem_expected {c : Char} (hc : c ∈ s.compared) : c ∈ s.expected :=
  (List.takeWhile_prefix _).subset ((List.rdropWhile_prefix _ _).subset hc)

/-- What is behind the expected expression ends on the line. -/
theorem tail_line : '\n' ∉ s.tail := by
  rw [tail]
  split
  next => exact List.not_mem_nil
  next m hm =>
    rw [List.mem_append, not_or]
    exact ⟨by decide, s.message_line m hm⟩

/-- The part that is read has no comma. -/
theorem comma_not_mem_compared : ',' ∉ s.compared := by
  intro hc
  have hmem : ',' ∈ s.expected.takeWhile (· ≠ ',') := (List.rdropWhile_prefix _ _).subset hc
  exact absurd (List.mem_takeWhile_imp hmem) (by decide)

/-- Up to its first comma the expected expression is what is in front of that. -/
theorem takeWhile_expected {front more : List Char} (hsplit : s.expected = front ++ ',' :: more)
    (hfront : ',' ∉ front) : s.expected.takeWhile (· ≠ ',') = front := by
  have hpass : ∀ c ∈ front, decide (c ≠ ',') = true := fun c hc => by
    refine decide_eq_true ?_
    rintro rfl
    exact hfront hc
  rw [hsplit, List.takeWhile_append_of_pos hpass, List.takeWhile_cons_of_neg (by decide),
    List.append_nil]

/-- Without a comma all is read. -/
theorem compared_eq (hcomma : ',' ∉ s.expected) : s.compared = s.expected := by
  have hall : s.expected.takeWhile (· ≠ ',') = s.expected := by
    refine List.takeWhile_eq_self_iff.mpr fun c hc => decide_eq_true ?_
    rintro rfl
    exact hcomma hc
  rw [compared, hall]
  refine List.rdropWhile_eq_self_iff.mpr fun hne => ?_
  rw [isBlank_of_mem_getLast?_trim (s := s.expected)
    (s.expected_trimmed.symm ▸ List.getLast?_eq_some_getLast hne)]
  exact Bool.false_ne_true

/-- What is behind the part that is read: nothing, or a comma with more behind it. -/
theorem exists_compared_append :
    ∃ back, s.expected ++ s.tail = s.compared ++ back ∧
      (back = [] ∨ ∃ blanks more, back = blanks ++ ',' :: more ∧
        (∀ c ∈ blanks, isBlank c = true) ∧ blank more = false) := by
  by_cases hcomma : ',' ∈ s.expected
  · obtain ⟨front, more, hsplit, hfront⟩ := List.eq_append_cons_of_mem hcomma
    obtain ⟨blanks, hblanks, hall⟩ := exists_trimEnd_append front
    have hcompared : s.compared ++ blanks = front := by
      rw [compared, s.takeWhile_expected hsplit hfront, ← hblanks]
    refine ⟨blanks ++ ',' :: (more ++ s.tail), ?_, .inr ⟨blanks, more ++ s.tail, rfl, hall, ?_⟩⟩
    · rw [← List.append_assoc, hcompared, hsplit, List.append_assoc, List.cons_append]
    · -- the last character of the expression is behind the comma and is no blank
      have hne : more ≠ [] := by
        rintro rfl
        exact s.expected_last (by rw [hsplit, List.getLast?_concat])
      have hlast : more.getLast hne ∈ s.expected.getLast? := by
        rw [hsplit, List.getLast?_append_of_ne_nil _ (List.cons_ne_nil _ _),
          List.getLast?_cons_of_ne_nil hne]
        exact List.getLast?_eq_some_getLast hne
      rw [← s.expected_trimmed] at hlast
      rw [Text.blank, List.all_eq_false]
      exact ⟨_, List.mem_append_left _ (List.getLast_mem hne),
        Bool.not_eq_true _ ▸ isBlank_of_mem_getLast?_trim hlast⟩
  · rw [s.compared_eq hcomma]
    refine ⟨s.tail, rfl, ?_⟩
    cases hmessage : s.message with
    | none => exact .inl (by rw [tail, hmessage])
    | some m =>
      refine .inr ⟨[], ' ' :: m, ?_, (fun c hc => by cases hc), s.message_filled m hmessage⟩
      rw [tail, hmessage]
      rfl

/-- There is something to read of the expected expression. -/
theorem compared_ne_nil : s.compared ≠ [] := by
  obtain ⟨c, rest, hexpected⟩ := List.exists_cons_of_ne_nil s.expected_ne_nil
  have hcomma : c ≠ ',' := by
    rintro rfl
    exact s.expected_head (by rw [hexpected, List.head?_cons])
  have hblank : isBlank c = false := by
    refine isBlank_of_mem_head?_trim (s := s.expected) ?_
    rw [s.expected_trimmed, hexpected]
    rfl
  intro hnil
  have hmem : c ∈ s.expected.takeWhile (· ≠ ',') := by simp [hexpected, hcomma]
  have hall := List.rdropWhile_eq_nil_iff.mp hnil c hmem
  rw [hblank] at hall
  cases hall

/-- Every end of the part that is read ends with no blank. -/
theorem exists_getLast?_compared {front more : List Char} (hsplit : s.compared = front ++ more)
    (hne : more ≠ []) : ∃ c ∈ more.getLast?, isBlank c = false := by
  have hlast : more.getLast hne ∈ s.compared.getLast? := by
    rw [hsplit, List.getLast?_append_of_ne_nil _ hne]
    exact List.getLast?_eq_some_getLast hne
  obtain ⟨hne', hc⟩ := List.mem_getLast?_eq_getLast hlast
  refine ⟨_, List.getLast?_eq_some_getLast hne, ?_⟩
  rw [hc]
  exact Bool.eq_false_iff.mpr (List.rdropWhile_last_not isBlank _ hne')

/-- Every end of the expression under test ends with no blank. -/
theorem exists_getLast?_actual {front more : List Char} (hsplit : s.actual = front ++ more)
    (hne : more ≠ []) : ∃ c ∈ more.getLast?, isBlank c = false := by
  refine ⟨_, List.getLast?_eq_some_getLast hne, ?_⟩
  refine isBlank_of_mem_getLast?_trim (s := s.actual) ?_
  rw [s.actual_trimmed, hsplit, List.getLast?_append_of_ne_nil _ hne]
  exact List.getLast?_eq_some_getLast hne

/-! ## Search -/

/-- The word `assert` is taken with the blanks around it. -/
theorem takes_assert {rest : List Char} (hrest : ∀ c ∈ rest.head?, isBlank c = false) :
    (gap ++ (Pattern.text "assert" ++ space)).Takes (s.indent ++ "assert ".toList) rest := by
  have hword : "assert ".toList = "assert".toList ++ [' '] := by decide
  have hhead : ∀ c ∈ ("assert".toList ++ [' '] ++ rest).head?, isBlank c = false := by
    intro c hc
    obtain rfl := Option.some.inj hc
    decide
  rw [hword]
  exact Takes.append (takes_star_one s.indent_blank hhead) ((takes_text "assert").append
    (takes_plus_one (List.cons_ne_nil _ _) (List.forall_mem_singleton.mpr rfl) hrest))

/-- The comparison is taken with the blanks around it. -/
theorem takes_equals {rest : List Char} (hrest : ∀ c ∈ rest.head?, isBlank c = false) :
    (gap ++ (Pattern.text "==" ++ gap)).Takes " == ".toList rest := by
  have hword : " == ".toList = [' '] ++ ("==".toList ++ [' ']) := by decide
  have hhead : ∀ c ∈ ("==".toList ++ [' '] ++ rest).head?, isBlank c = false := by
    intro c hc
    obtain rfl := Option.some.inj hc
    decide
  rw [hword]
  have hspace : ∀ c ∈ [' '], isBlank c = true := List.forall_mem_singleton.mpr rfl
  exact Takes.append (takes_star_one hspace hhead) ((takes_text "==").append
    (takes_star_one hspace hrest))

/-- The end of the line is taken. -/
theorem takes_end : messageAndEnd.Takes [] [] := by
  intro c hc
  have hnone : (gap ++ (Pattern.text "," ++ (gap ++ dot.plus))).tryAt c = none := by
    refine tryAt_eq_none_iff.mpr fun d hd => ?_
    obtain ⟨e, he, hbehind⟩ := mem_offers_append.mp hd
    rw [gap, Pattern.blank, offers_star_one_nil hc, List.mem_singleton] at he
    rw [he] at hbehind
    refine tryAt_eq_none_iff.mp (tryAt_append_none (tryAt_chars_none ?_)) d hbehind
    rw [hc]
    decide
  exact tryAt_append (tryAt_opt_none hnone) (takes_textEnd c hc)

/-- A comma with more behind it is taken up to the end of the line. -/
theorem takes_message {blanks more : List Char} (hblanks : ∀ c ∈ blanks, isBlank c = true)
    (hmore : Text.blank more = false) (hline : '\n' ∉ more) :
    messageAndEnd.Takes (blanks ++ ',' :: more) [] := by
  have hinner : more.dropWhile isBlank ≠ [] := by
    intro hnil
    rw [Text.blank, List.all_eq_true.mpr (List.dropWhile_eq_nil_iff.mp hnil)] at hmore
    cases hmore
  have hhead : ∀ c ∈ (more.dropWhile isBlank ++ []).head?, isBlank c = false := by
    rw [List.append_nil]
    intro c hc
    have hfirst := List.head?_dropWhile_not isBlank more
    rw [hc] at hfirst
    exact hfirst
  have hdot : ∀ c ∈ more.dropWhile isBlank, (c != '\n') = true := by
    intro c hc
    rw [bne_iff_ne]
    rintro rfl
    exact hline ((List.dropWhile_suffix _).subset hc)
  have htext : (gap ++ (Pattern.text "," ++ (gap ++ dot.plus))).Takes
      (blanks ++ (",".toList ++ (more.takeWhile isBlank ++ more.dropWhile isBlank))) [] := by
    refine Takes.append (takes_star_one hblanks ?_) ((takes_text ",").append
      (Takes.append (takes_star_one (fun c hc => List.mem_takeWhile_imp hc) hhead)
        (takes_plus_one hinner hdot fun c hc => by cases hc)))
    intro c hc
    obtain rfl := Option.some.inj hc
    decide
  rw [List.takeWhile_append_dropWhile] at htext
  have hend := Takes.append (Takes.either (q := here) htext) takes_textEnd
  rw [List.append_nil] at hend
  exact hend

/-- The message does not begin inside a text without commas. -/
theorem tryAt_messageAndEnd_none {more back : List Char} {c : Cursor} (hcomma : ',' ∉ more)
    (hlast : ∃ y ∈ more.getLast?, isBlank y = false) (hc : c.rest = more ++ back) :
    messageAndEnd.tryAt c = none := by
  have hne : more ≠ [] := by
    rintro rfl
    obtain ⟨y, hy, -⟩ := hlast
    cases hy
  have hmessage : (gap ++ Pattern.text "," ++ gap ++ dot.plus).tryAt c = none := by
    refine tryAt_append_none (tryAt_append_none (tryAt_gap_text_none hlast ?_ hc))
    rintro front inner rfl hinner hprefix
    obtain ⟨x, inner, rfl⟩ := List.exists_cons_of_ne_nil hinner
    obtain rfl := (List.cons_prefix_cons.mp hprefix).1
    exact hcomma (List.mem_append_right _ List.mem_cons_self)
  refine tryAt_eq_none_iff.mpr fun d hd => ?_
  obtain ⟨e, he, hend⟩ := mem_offers_append.mp hd
  rcases mem_offers_opt.mp he with he | rfl
  · exact tryAt_eq_none_iff.mp hmessage e he
  · have hend := (mem_offers_look.mp hend).1
    rw [hc, List.isEmpty_iff] at hend
    exact hne (List.append_eq_nil_iff.mp hend).1

/-- The parts of the idiom behind the start of the text. -/
theorem tryAt_pattern (t : List Char) : comparison.pattern.tryAt (.start t) =
    ((gap ++ (Pattern.text "assert" ++ space)) ++ (group 1 dot.plusLazy ++
      ((gap ++ (Pattern.text "==" ++ gap)) ++ (group 2 dot.plusLazy ++ messageAndEnd)))).tryAt
        (.start t) :=
  rfl

/-- The pattern of the statement takes the expression under test and the expected one up to its
first comma. -/
theorem exists_find?_eq : ∃ m, comparison.pattern.find? s.text = some m ∧
    m.group 1 = s.actual ∧ m.group 2 = s.compared := by
  obtain ⟨back, hback, hkind⟩ := s.exists_compared_append
  have htext : s.text =
      s.indent ++ "assert ".toList ++ (s.actual ++ (" == ".toList ++ (s.compared ++ back))) :=
    congrArg (fun t => s.indent ++ "assert ".toList ++ (s.actual ++ (" == ".toList ++ t))) hback
  refine find?_of_tryAt_groups htext (tryAt_pattern s.text) (s.takes_assert ?_) ?_
    (takes_equals ?_) ?_ ?_
  · intro c hc
    rw [List.head?_append_of_ne_nil _ s.actual_ne_nil] at hc
    exact s.head_actual hc
  · refine plusLazy_one_before_of_none s.actual_ne_nil ?_ ?_
    · intro c hc
      rw [bne_iff_ne]
      rintro rfl
      exact s.actual_line hc
    · intro fewer more hsplit hmore c hc
      refine tryAt_append_none (tryAt_append_none (p := gap ++ Pattern.text "==") (q := gap)
        (tryAt_gap_text_none (s.exists_getLast?_actual hsplit hmore) ?_ hc))
      intro front inner hinner hne hprefix
      have hword : "==".toList <+: inner :=
        prefix_of_prefix_append_cons (x := ' ') (by decide) hprefix
      refine s.actual_plain (hword.isInfix.trans ?_)
      rw [hsplit, hinner]
      exact ⟨fewer ++ front, [], by simp⟩
  · intro c hc
    rw [← hback, List.head?_append_of_ne_nil _ s.expected_ne_nil, ← s.expected_trimmed] at hc
    exact isBlank_of_mem_head?_trim hc
  · refine plusLazy_one_before_of_none s.compared_ne_nil ?_ ?_
    · intro c hc
      rw [bne_iff_ne]
      rintro rfl
      exact s.expected_line (s.mem_expected hc)
    · intro fewer more hsplit hmore c hc
      refine tryAt_messageAndEnd_none ?_ (s.exists_getLast?_compared hsplit hmore) hc
      exact fun hcomma => s.comma_not_mem_compared (hsplit ▸ List.mem_append_right fewer hcomma)
  · rcases hkind with rfl | ⟨blanks, more, rfl, hblanks, hmore⟩
    · exact takes_end
    · refine takes_message hblanks hmore fun hline => ?_
      have hmem : '\n' ∈ s.expected ++ s.tail := by
        rw [hback]
        exact List.mem_append_right _ (List.mem_append_right _ (List.mem_cons_of_mem _ hline))
      exact (List.mem_append.mp hmem).elim s.expected_line s.tail_line

/-! ## Assertions -/

/-- The text of a side as an assertion has it: cleaned, where something is left. -/
def side? (v : List Char) : Option String :=
  if (cleanValue v).isEmpty then none else some (String.ofList (cleanValue v))

/-- A side that is there is cleaned. -/
theorem clean?_some (v : List Char) : Idiom.side?.clean? (some v) = side? v :=
  rfl

/-- A side is an expression exactly when cleaning leaves this expression. -/
theorem side?_eq_some_iff {v e : List Char} (hne : e ≠ []) :
    side? v = some (String.ofList e) ↔ cleanValue v = e := by
  unfold side?
  split
  next hempty =>
    rw [List.isEmpty_iff] at hempty
    simp [hempty, hne.symm]
  next => simp [String.ofList_inj]

/-- The equality assertion that the statement makes on a line of a file. -/
def assertion (number : Nat) : Assertion :=
  { kind := .equals
    expected := side? s.compared
    actual := side? s.actual
    line := number
    raw := String.ofList (trim s.text) }

/-- The statement is read as an equality of its sides. -/
theorem read?_text (number : Nat) :
    comparison.read? number s.text = some (s.assertion number) := by
  obtain ⟨m, hfind, hactual, hcompared⟩ := s.exists_find?_eq
  have hactual := group?_of_group hactual s.actual_ne_nil
  have hcompared := group?_of_group hcompared s.compared_ne_nil
  rw [Idiom.read?, hfind]
  simp only [comparison, List.any_nil, Bool.false_eq_true, if_false, Option.map_some, Idiom.side?,
    hactual, hcompared, clean?_some, assertion]

/-- The statement is no comment. -/
theorem isComment_text : Code.isComment (trim s.text) = false := by
  have hword (rest : List Char) :
      "assert ".toList ++ rest = [] ++ "assert".toList ++ ' ' :: rest := rfl
  have htrim (rest : List Char) : trim ([] ++ "assert".toList ++ rest) =
      [] ++ "assert".toList ++ trimEnd rest :=
    trim_append_append (by decide) (List.all_iff_forall_prop.mp (by decide)) [] rest
  unfold text
  rw [List.append_assoc, trim_blanks_append s.indent_blank, hword, htrim]
  rfl

/-- Wherever a comparison stands in a body, its line makes an equality assertion of the whole
expression under test and of the expected expression up to its first comma, both cleaned. The
expected side is the whole expression exactly where the expression has no comma at all, inside
brackets or not, whether a message follows or not. -/
theorem expected_up_to_comma (s : Comparison) (framework : Framework) (body : List Char)
    (first i : Nat) (hline : (lines body)[i]? = some s.text) :
    s.assertion (first + i) ∈ assertions framework body first ∧
      (Unpunctuated s.actual → side? s.actual = some (String.ofList s.actual)) ∧
      (Unpunctuated s.expected →
        (side? s.compared = some (String.ofList s.expected) ↔ ',' ∉ s.expected)) := by
  refine ⟨?_, fun hkept => ?_, fun hkept => ?_⟩
  · have hmem : (s.text, first + i) ∈ (lines body).zipIdx first := by
      rw [List.mem_zipIdx_iff_le_and_getElem?_sub]
      exact ⟨Nat.le_add_right first i, by rw [Nat.add_sub_cancel_left]; exact hline⟩
    refine List.mem_flatMap.mpr ⟨_, hmem, ?_⟩
    simp only [s.isComment_text, Bool.false_eq_true, if_false]
    exact List.mem_filterMap.mpr ⟨comparison, comparison_mem_idioms, s.read?_text _⟩
  · exact (side?_eq_some_iff s.actual_ne_nil).mpr (hkept.cleanValue_eq s.actual_trimmed)
  · refine (side?_eq_some_iff s.expected_ne_nil).trans ⟨fun hclean hcomma => ?_, fun hcomma => ?_⟩
    · rw [← hclean] at hcomma
      exact s.comma_not_mem_compared (mem_of_mem_cleanValue hcomma)
    · rw [s.compared_eq hcomma]
      exact hkept.cleanValue_eq s.expected_trimmed

/-- A call is compared with a number on the second line of a test. -/
theorem number_is_whole :
    ∃ s : Comparison, s.text = "    assert f(x, y) == 5, 'sum, of both'".toList ∧
      s.assertion 4 ∈
        assertions .pytest "    x = 2\n    assert f(x, y) == 5, 'sum, of both'".toList 3 ∧
      side? s.actual = some "f(x, y)" ∧ side? s.compared = some "5" := by
  let s : Comparison :=
    { indent := "    ".toList
      actual := "f(x, y)".toList
      expected := "5".toList
      message := some "'sum, of both'".toList
      indent_blank := List.all_iff_forall_prop.mp (by decide)
      indent_line := by decide
      actual_ne_nil := by decide
      actual_trimmed := by decide
      actual_plain := by decide
      actual_line := by decide
      expected_ne_nil := by decide
      expected_trimmed := by decide
      expected_head := by decide
      expected_last := by decide
      expected_line := by decide
      message_filled := by decide
      message_line := by decide }
  have htext : s.text = "    assert f(x, y) == 5, 'sum, of both'".toList := by
    show "    ".toList ++ "assert ".toList ++ ("f(x, y)".toList ++ (" == ".toList ++
      ("5".toList ++ (", ".toList ++ "'sum, of both'".toList)))) = _
    decide
  have hline : (lines "    x = 2\n    assert f(x, y) == 5, 'sum, of both'".toList)[1]? =
      some s.text := by
    rw [htext]
    decide
  obtain ⟨hmem, hactual, hexpected⟩ := expected_up_to_comma s .pytest _ 3 1 hline
  refine ⟨s, htext, hmem, ?_, ?_⟩
  · exact (hactual (by decide)).trans (by decide)
  · exact ((hexpected (by decide)).mpr (by decide)).trans (by decide)

/-- A list of two numbers is cut behind the first. -/
theorem expected_list_is_cut :
    Code.IsArgument "[1, 2]".toList ∧ Unpunctuated "[1, 2]".toList ∧
      ¬"==".toList <:+: "[1, 2]".toList ∧
      ∀ x ∈ assertions .pytest "assert f(x) == [1, 2]".toList 1,
        x.expected ≠ some "[1, 2]" ∧ (x.kind = .equals → x.expected = some "[1") := by
  refine ⟨by decide, by decide, by decide, by decide⟩

end Comparison

end Python

end Reader

end Adjudicator
