import Adjudicator.Proofs.Code.Span
import Adjudicator.Proofs.Pattern.Taken
import Adjudicator.Proofs.TestRun.Names
import Adjudicator.Reader.Script
import Mathlib.Data.Bool.AllAny

/-!
# Titles of tests

A test is called with its title between two quotes, and the reader of a title stops at the first
quote of any kind behind its first character. Main statement: every call makes a test whose name is
the title up to there, so the name is the whole title exactly where no other quote stands behind
its first character, and then a failure that a run prints with the title is found for the test.
-/

namespace Adjudicator

open Text Code Pattern

namespace Reader.Script

/-! ## Calls -/

/-- The line on which a test is called, from its indent to what follows the title. -/
structure TitledCall where
  /-- The blanks in front of it. -/
  indent : List Char
  /-- The quote around the title. -/
  quote : Char
  /-- The title. -/
  title : List Char
  /-- What follows the closing quote. -/
  rest : List Char
  /-- The indent is blank. -/
  indent_blank : ∀ c ∈ indent, isBlank c = true
  /-- The title stands in quotes. -/
  quote_is : ListScan.isQuote quote = true
  /-- The title has a character. -/
  title_ne_nil : title ≠ []
  /-- It ends on the line. -/
  title_line : '\n' ∉ title
  /-- The quote around it is not in it. -/
  title_plain : quote ∉ title

namespace TitledCall

variable (t : TitledCall)

/-- The line. -/
def line : List Char :=
  t.indent ++ "it(".toList ++ t.quote :: (t.title ++ t.quote :: t.rest)

/-- The title up to the first quote behind its first character. -/
def name : List Char :=
  t.title.take 1 ++ (t.title.drop 1).takeWhile (!ListScan.isQuote ·)

/-- The quotes of a title are those of literals. -/
theorem anyQuote_eq : anyQuote = one ListScan.isQuote :=
  congrArg one (funext fun c => by rw [ListScan.isQuote, Bool.or_comm (c == '\'')])

/-- A quote is not blank. -/
theorem not_isBlank_of_isQuote {c : Char} (h : ListScan.isQuote c = true) : isBlank c = false := by
  simp only [ListScan.isQuote, Bool.or_eq_true, beq_iff_eq] at h
  rcases h with (rfl | rfl) | rfl <;> decide

/-- The name begins with the first character of the title and ends in front of the next quote. -/
theorem exists_title_eq : ∃ c rest, t.title = c :: rest ∧
    t.name = c :: rest.takeWhile (!ListScan.isQuote ·) := by
  obtain ⟨c, rest, htitle⟩ := List.exists_cons_of_ne_nil t.title_ne_nil
  refine ⟨c, rest, htitle, ?_⟩
  rw [name, htitle]
  rfl

/-- A quote is behind the name, with more of the line behind it. -/
theorem exists_name_append :
    ∃ k more, ListScan.isQuote k = true ∧ t.title ++ t.quote :: t.rest = t.name ++ k :: more := by
  obtain ⟨c, rest, htitle, hname⟩ := t.exists_title_eq
  have hsplit : rest.takeWhile (!ListScan.isQuote ·) ++ rest.dropWhile (!ListScan.isQuote ·) =
      rest := List.takeWhile_append_dropWhile
  rw [hname, htitle]
  cases hdrop : rest.dropWhile (!ListScan.isQuote ·) with
  | nil =>
    rw [hdrop, List.append_nil] at hsplit
    exact ⟨t.quote, t.rest, t.quote_is, by rw [hsplit]⟩
  | cons k more =>
    have hquote := List.head?_dropWhile_not (!ListScan.isQuote ·) rest
    rw [hdrop] at hquote hsplit
    refine ⟨k, more ++ t.quote :: t.rest, by simpa using hquote, ?_⟩
    conv_lhs => rw [← hsplit]
    simp

/-- The name is the whole title exactly where no quote is behind its first character. -/
theorem name_eq_title_iff :
    t.name = t.title ↔ ∀ c ∈ t.title.tail, ListScan.isQuote c = false := by
  obtain ⟨c, rest, htitle, hname⟩ := t.exists_title_eq
  rw [hname, htitle, List.tail_cons, List.cons.injEq, and_iff_right rfl,
    List.takeWhile_eq_self_iff]
  simp only [Bool.not_eq_true']

/-! ## Search -/

/-- Everything up to the opening quote is taken. -/
theorem takes_call (rest : List Char) :
    (gap ++ (choice ["it", "test"] ++ (opt (choice [".only", ".skip", ".concurrent", ".todo"]) ++
      (gap ++ (Pattern.text "(" ++ gap))))).Takes (t.indent ++ "it(".toList) (t.quote :: rest) := by
  have hword : "it(".toList = "it".toList ++ ([] ++ ([] ++ (['('] ++ []))) := by decide
  have hquote := not_isBlank_of_isQuote t.quote_is
  have hpoint (word : String) (w : List Char) (h : word.toList = '.' :: w) :
      (Pattern.text word).Rejects (· == '(') := rejects_text h (by decide)
  have hmodifiers : (choice [".only", ".skip", ".concurrent", ".todo"]).Rejects (· == '(') :=
    ((hpoint ".only" _ rfl).either ((hpoint ".skip" _ rfl).either
      ((hpoint ".concurrent" _ rfl).either (hpoint ".todo" _ rfl))))
  have hopen : (Pattern.text "(").Takes ['('] ([] ++ t.quote :: rest) := takes_text "("
  have hgap : gap.Takes [] (t.quote :: rest) := takes_star_one nofun fun c hc => by
    obtain rfl := Option.some.inj hc
    exact hquote
  have hgap' : gap.Takes [] (['('] ++ [] ++ t.quote :: rest) := takes_star_one nofun fun c hc => by
    obtain rfl := Option.some.inj hc
    decide
  have hit : (choice ["it", "test"]).Takes "it".toList
      ([] ++ ([] ++ (['('] ++ [])) ++ t.quote :: rest) := (takes_text "it").either
  rw [hword]
  refine Takes.append (takes_star_one t.indent_blank fun c hc => ?_) (hit.append
    (Takes.append (hmodifiers.takes_opt (by decide)) (hgap'.append (hopen.append hgap))))
  obtain rfl := Option.some.inj hc
  decide

/-- The pattern behind the start of the text. -/
theorem tryAt_testCall : testCall.tryAt =
    (textStart ++ ((gap ++ (choice ["it", "test"] ++
      (opt (choice [".only", ".skip", ".concurrent", ".todo"]) ++
        (gap ++ (Pattern.text "(" ++ gap))))) ++
      (group 1 anyQuote ++ (group 2 dot.plusLazy ++ anyQuote)))).tryAt :=
  rfl

/-- The pattern of a title takes the name up to the next quote. -/
theorem title_before {k : Char} (more : List Char) :
    dot.plusLazy.TakesBefore anyQuote t.name (k :: more) := by
  obtain ⟨c, rest, htitle, hname⟩ := t.exists_title_eq
  have hdot : ∀ y ∈ t.title, (y != '\n') = true := by
    intro y hy
    rw [bne_iff_ne]
    rintro rfl
    exact t.title_line hy
  rw [htitle] at hdot
  obtain ⟨hc, hrest⟩ := List.forall_mem_cons.mp hdot
  rw [hname]
  refine plusLazy_one_cons_before hc (fun y hy => hrest y ((List.takeWhile_prefix _).subset hy)) ?_
  intro fewer more' hsplit hmore e he
  rw [anyQuote_eq]
  refine tryAt_one_none fun y hy => ?_
  rw [he, List.head?_append_of_ne_nil _ hmore] at hy
  have hmem : y ∈ rest.takeWhile (!ListScan.isQuote ·) := by
    rw [hsplit]
    exact List.mem_append_right _ (List.mem_of_mem_head? hy)
  simpa using List.mem_takeWhile_imp hmem

/-- The title is found up to the first quote behind its first character. -/
theorem exists_find?_eq : ∃ m, testCall.find? t.line = some m ∧ m.group 2 = t.name := by
  obtain ⟨k, more, hk, hsplit⟩ := t.exists_name_append
  have hquote {c : Char} (hc : ListScan.isQuote c = true) (rest : List Char) :
      anyQuote.Takes [c] rest := by
    rw [anyQuote_eq]
    exact takes_one hc
  have hrecords := (t.takes_call (t.name ++ [k] ++ more)).records.append
    (((hquote t.quote_is _).records_group 1).append
      (TakesBefore.records 2 (t.title_before more) (hquote hk more).records))
  have hline : t.line =
      t.indent ++ "it(".toList ++ ([t.quote] ++ (t.name ++ [k])) ++ more := by
    rw [line, hsplit]
    simp only [List.append_assoc, List.cons_append, List.nil_append]
  obtain ⟨m, hm, hgroup⟩ := hrecords.exists_find? tryAt_testCall
  refine ⟨m, hline ▸ hm, hgroup 2 _ t.name rfl ⟨k :: more, ?_⟩⟩
  simp only [List.append_assoc, List.cons_append, List.nil_append]

/-! ## Tests -/

/-- Each call of a file makes a test at its line, whose name is the title up to the first quote of
any kind behind its first character. The name is the whole title exactly where there is no such
quote, and then the first failure that a run reports with the title is the failure of the test. -/
theorem titles_end_at_quote (t : TitledCall) (file : Path) (framework : Framework)
    (content : List Char) (i : Nat) (hline : (lines content)[i]? = some t.line) :
    ∃ x ∈ (dialect.tests (lines content)).map (dialect.testCase file framework),
      x.line = i + 1 ∧ x.name = String.ofList t.name ∧
      (x.name = String.ofList t.title ↔ ∀ c ∈ t.title.tail, ListScan.isQuote c = false) ∧
      ((∀ c ∈ t.title.tail, ListScan.isQuote c = false) →
        ∀ (r : TestRun) (front back : List TestOutcome) (o : TestOutcome),
          r.outcomes = front ++ o :: back → o.status = .failed → o.name = String.ofList t.title →
          (∀ o' ∈ front, o'.status = .failed →
            TestRun.namesMatch o'.name.toList t.title = false) →
          r.failureOf? x.name = o.message) := by
  obtain ⟨m, hfind, hname⟩ := t.exists_find?_eq
  have hmem : (⟨t.name, (braceBody? (lines content) i 3).getD (lineSpan i t.line), []⟩ : Located) ∈
      dialect.tests (lines content) := by
    refine List.mem_filterMap.mpr ⟨(t.line, i), List.mem_zipIdx_iff_getElem?.mpr hline, ?_⟩
    simp only [hfind, Option.map_some, hname]
  refine ⟨_, List.mem_map_of_mem hmem, ?_, rfl, ?_, ?_⟩
  · show ((braceBody? (lines content) i 3).getD (lineSpan i t.line)).first = i + 1
    cases hspan : braceBody? (lines content) i 3 with
    | none => rfl
    | some span => exact first_of_braceBody? hspan
  · exact String.ofList_inj.trans t.name_eq_title_iff
  · intro hplain r front back o houtcomes hfailed htitle hfront
    have hwhole : o.name = String.ofList t.name := by rw [htitle, t.name_eq_title_iff.mpr hplain]
    show r.failureOf? (String.ofList t.name) = o.message
    rw [← hwhole]
    refine TestRun.failureOf?_of_first houtcomes hfailed ?_
    rw [htitle, String.toList_ofList]
    exact hfront

/-- A call inside a suite, and a run in which another test fails first. -/
theorem nested_title_is_found :
    ∃ x ∈ (dialect.tests (lines
        "describe('cart', () => \x7b\n  it('adds two', () => \x7b\n  \x7d);\n\x7d);\n".toList)).map
          (dialect.testCase "cart.test.js" .jest),
      x.line = 2 ∧ x.name = "adds two" ∧
        TestRun.failureOf? ⟨[⟨"is empty", none, .failed, none, none⟩,
          ⟨"adds two", none, .failed, none, some "expected 2"⟩], 0, ""⟩ x.name =
            some "expected 2" := by
  let t : TitledCall :=
    { indent := "  ".toList
      quote := '\''
      title := "adds two".toList
      rest := ", () => \x7b".toList
      indent_blank := List.all_iff_forall_prop.mp (by decide)
      quote_is := by decide
      title_ne_nil := by decide
      title_line := by decide
      title_plain := by decide }
  have htext : t.line = "  it('adds two', () => \x7b".toList := by
    show "  ".toList ++ "it(".toList ++
      '\'' :: ("adds two".toList ++ '\'' :: ", () => \x7b".toList) = _
    decide
  have hline : (lines
      "describe('cart', () => \x7b\n  it('adds two', () => \x7b\n  \x7d);\n\x7d);\n".toList)[1]? =
        some t.line := by
    rw [htext]
    decide
  have hplain : ∀ c ∈ "adds two".toList.tail, ListScan.isQuote c = false :=
    List.all_iff_forall_prop.mp (by decide)
  obtain ⟨x, hx, hfirst, -, hname, hfound⟩ :=
    titles_end_at_quote t "cart.test.js" .jest _ 1 hline
  refine ⟨x, hx, hfirst, (hname.mpr hplain).trans (by decide), ?_⟩
  exact hfound hplain _ [⟨"is empty", none, .failed, none, none⟩] []
    ⟨"adds two", none, .failed, none, some "expected 2"⟩ rfl rfl (by decide) (by decide)

/-- A title in double quotes is cut at its apostrophe, and its failure is not found. -/
theorem apostrophe_cuts_title :
    (dialect.tests (lines "it(\"it's empty\", () => \x7b\n\x7d);\n".toList)).map
        (fun x => String.ofList x.name) = ["it"] ∧
      TestRun.failureOf? ⟨[⟨"it's empty", none, .failed, none, some "not empty"⟩], 0, ""⟩ "it" =
        none := by
  decide

end TitledCall

end Reader.Script

end Adjudicator
