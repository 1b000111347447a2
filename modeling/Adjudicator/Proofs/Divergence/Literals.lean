import Adjudicator.Proofs.Divergence.Cascade
import Adjudicator.Proofs.Divergence.Inference
import Adjudicator.Proofs.Reader.Equality
import Adjudicator.Proofs.Value.Literal

/-!
# A literal asserted, a literal returned

A Java test asserts one literal of a method that returns another one. The texts pass through the
idioms of assertions, two readings of numbers, the comparison of outlines and of values and the
inference of changes. Main statement: all of them agree. Nothing is found when the two numbers are
near each other, and otherwise the comparison of outlines reports a mismatch of returned values,
whatever the signs, the lengths and the sizes of the literals are.
-/

namespace Adjudicator

open Text Pattern Value

/-! ## The returned literal -/

namespace Value

/-- The line that returns a literal. -/
def returning (x : SignedLiteral) : List Char :=
  "return ".toList ++ (x.text ++ [';'])

variable (x : SignedLiteral)

private theorem returning_eq : returning x = "return".toList ++ ([' '] ++ (x.text ++ [';'])) := by
  unfold returning
  simp only [String.reduceToList, List.cons_append, List.nil_append]

private theorem head?_returning : (returning x).head? = some 'r' := by
  unfold returning
  simp only [String.reduceToList, List.cons_append, List.head?_cons]

private theorem forall_mem_returning {P : Char → Prop} [DecidablePred P]
    (hfixed : ("return ;".toList.all fun c => P c) = true)
    (hliteral : ("-.0123456789".toList.all fun c => P c) = true) : ∀ c ∈ returning x, P c := by
  have hparts : "return ".toList ⊆ "return ;".toList ∧ ';' ∈ "return ;".toList := by
    simp only [String.reduceToList]
    decide
  intro c hc
  unfold returning at hc
  simp only [List.mem_append, List.mem_singleton] at hc
  rcases hc with hc | hc | rfl
  · exact List.all_iff_forall_prop.mp hfixed c (hparts.1 hc)
  · exact x.forall_mem_text hliteral c hc
  · exact List.all_iff_forall_prop.mp hfixed ';' hparts.2

private theorem getLast?_returning : (returning x).getLast? = some ';' := by
  unfold returning
  simp only [List.getLast?_append, List.getLast?_singleton, Option.some_or]

private theorem returning_ne_nil : returning x ≠ [] :=
  List.ne_nil_of_mem (List.mem_of_mem_head? (head?_returning x))

/-- The line that returns a literal has no blanks around it. -/
theorem trim_returning : trim (returning x) = returning x :=
  trim_eq_self_of_ends (head?_returning x) (getLast?_returning x) (by decide)

/-- The line that returns a literal is a single one. -/
theorem lines_returning : lines (returning x) = [returning x] :=
  lines_eq_singleton (returning_ne_nil x) fun h =>
    forall_mem_returning x (P := fun c => c ≠ '\n') (by decide) (by decide) _ h rfl

/-- What a return statement has in front of its expression. -/
private def beforeReturned : Pattern :=
  textStart ++ gap ++ "return" ++ space

/-- What it has behind the expression. -/
private def behindReturned : Pattern :=
  gap ++ opt ";" ++ gap ++ textEnd

private theorem tryAt_returnPattern (c : Cursor) :
    returnPattern.tryAt c = beforeReturned.run c fun d => dot.plusLazy.run d fun e =>
      behindReturned.tryAt (e.mark 1 d.index) :=
  rfl

private theorem tryAt_beforeReturned : beforeReturned.tryAt (.start (returning x)) =
    some ((Cursor.start (returning x)).past "return ".toList (x.text ++ [';'])) := by
  have hgap : gap.tryAt (.start (returning x)) = some (.start (returning x)) :=
    tryAt_star_one_of_not fun c hc => by
      obtain rfl : 'r' = c := Option.some.inj ((head?_returning x).symm.trans hc)
      decide
  have hword : (Pattern.text "return").tryAt (.start (returning x)) = _ :=
    tryAt_text (returning_eq x)
  have hspace : space.tryAt ((Cursor.start (returning x)).past "return".toList
      ([' '] ++ (x.text ++ [';']))) =
        some (((Cursor.start (returning x)).past "return".toList
          ([' '] ++ (x.text ++ [';']))).past [' '] (x.text ++ [';'])) := by
    refine tryAt_plus_one (List.cons_ne_nil _ _) rfl (List.forall_mem_singleton.mpr rfl)
      fun c hc => ?_
    rw [List.head?_append_of_ne_nil _ x.text_ne_nil] at hc
    exact x.forall_mem_text (P := fun c => isBlank c = false) (by decide) c
      (List.mem_of_mem_head? hc)
  rw [Cursor.past_past] at hspace
  have hfront : "return ".toList = "return".toList ++ [' '] := by
    simp only [String.reduceToList, List.cons_append, List.nil_append]
  rw [hfront]
  exact tryAt_append (tryAt_append (tryAt_append (tryAt_look rfl) hgap) hword) hspace

private theorem tryAt_behindReturned {c : Cursor} (hc : c.rest = [';']) :
    behindReturned.tryAt c = some (c.past [';'] []) := by
  obtain ⟨prev, rest, index, marks⟩ := c
  obtain rfl : rest = [';'] := hc
  rfl

/-- In front of anything but a blank and a semicolon a return statement does not end. -/
private theorem tryAt_behindReturned_none {c : Cursor} {y : Char} {rest : List Char}
    (hc : c.rest = y :: rest) (hblank : isBlank y = false) (hsemicolon : y ≠ ';') :
    behindReturned.tryAt c = none := by
  have hgap : gap.offers c = [c] := by
    refine offers_star_one_of_not fun z hz => ?_
    rw [hc, List.head?_cons, Option.mem_some_iff] at hz
    rwa [← hz]
  rw [tryAt_eq_none_iff]
  intro d hd
  obtain ⟨e, he, hend⟩ := mem_offers_append.mp hd
  obtain ⟨f, hf, hsecond⟩ := mem_offers_append.mp he
  obtain ⟨g, hfirst, hsign⟩ := mem_offers_append.mp hf
  obtain rfl : g = c := List.mem_singleton.mp (hgap ▸ hfirst)
  rcases mem_offers_opt.mp hsign with htaken | rfl
  · obtain ⟨z, s, hs, hz, _⟩ := mem_offers_one.mp htaken
    rw [hc] at hs
    obtain ⟨rfl, _⟩ := List.cons.inj hs
    exact hsemicolon (beq_iff_eq.mp hz)
  · obtain rfl : e = f := List.mem_singleton.mp (hgap ▸ hsecond)
    obtain ⟨hempty, _⟩ := mem_offers_look.mp hend
    rw [hc] at hempty
    cases hempty

/-- The returned expression is the literal. -/
private theorem exists_find?_returning :
    ∃ m, returnPattern.find? (returning x) = some m ∧ m.group 1 = x.text := by
  have hmatch : returnPattern.tryAt (.start (returning x)) = some
      (((((Cursor.start (returning x)).past "return ".toList (x.text ++ [';'])).past x.text
        [';']).mark 1 "return ".toList.length).past [';'] []) := by
    rw [tryAt_returnPattern]
    refine run_of_tryAt (tryAt_beforeReturned x) ?_
    have hindex : ((Cursor.start (returning x)).past "return ".toList (x.text ++ [';'])).index =
        "return ".toList.length := Nat.zero_add _
    rw [hindex]
    refine run_plusLazy_one x.text_ne_nil rfl (x.forall_mem_text (by decide))
      (fun fewer more hsplit hmore => ?_) (tryAt_behindReturned rfl)
    obtain ⟨y, more, rfl⟩ := List.exists_cons_of_ne_nil hmore
    have hy : y ∈ x.text := by
      rw [hsplit]
      exact List.mem_append_right _ List.mem_cons_self
    exact tryAt_behindReturned_none rfl
      (x.forall_mem_text (P := fun c => isBlank c = false) (by decide) y hy)
      (x.forall_mem_text (P := fun c => c ≠ ';') (by decide) y hy)
  have hsubject : returning x = "return ".toList ++ (x.text ++ [';']) := rfl
  refine ⟨_, find?_of_tryAt hmatch, group_of_span? hsubject ?_⟩
  simp only [Cursor.mark, Cursor.past, Cursor.start, Match.span?, List.lookup_cons_self,
    Nat.zero_add]

/-- The body returns one number. -/
theorem ofBody_returning (first : Nat) :
    ofBody (returning x) first = [⟨.returned, x.value, first, returning x⟩] := by
  have hempty : (returning x).isEmpty = false :=
    List.isEmpty_eq_false_iff.mpr (returning_ne_nil x)
  have hcomment : Code.isComment (returning x) = false := by
    obtain ⟨rest, hrest⟩ := List.head?_eq_some_iff.mp (head?_returning x)
    rw [hrest]
    rfl
  have hstripped : Code.stripLiterals (returning x) = returning x :=
    Code.stripLiterals_eq_self
      (forall_mem_returning x (P := fun c => c ∉ Code.quotes) (by decide) (by decide))
  have hreturned : returned? (returning x) = some x.value := by
    obtain ⟨m, hm, hgroup⟩ := exists_find?_returning x
    rw [Outline.returned?_eq, hm, Option.bind_some, hgroup, x.trim_text, x.numericValue?_text]
  have hline : ofLine (returning x) first = [⟨.returned, x.value, first, returning x⟩] := by
    simp only [ofLine, trim_returning, hempty, hcomment, Bool.or_self, Bool.false_eq_true, if_false,
      hstripped, hreturned]
  rw [ofBody, lines_returning, List.zipIdx_cons, List.zipIdx_nil, List.flatMap_cons,
    List.flatMap_nil, List.append_nil]
  exact hline

end Value

/-! ## The pair -/

namespace Pair

/-- A pair of a JUnit test and a Java method with the given bodies, both on the first line. -/
def sample (test method : String) : Pair :=
  { test :=
      { name := "testCalculate", file := "src/test/java/CalcTest.java", line := 1
        endLine := max 1 (stringLines test).length, framework := .junit5
        assertions := Reader.Java.assertions .junit5 test.toList 1, body := test }
    method :=
      { name := "calculate", file := "src/main/java/Calc.java", line := 1
        endLine := max 1 (stringLines method).length, parameters := [], result := none
        body := method, owner := some "Calc" }
    confidence := 0.8, link := .callGraph }

/-- A test that expects one literal of a method that returns another one. -/
def ofLiterals (expected returned : SignedLiteral) : Pair :=
  sample ("assertEquals(" ++ String.ofList expected.text ++ ", calc.calculate(1));")
    ("return " ++ String.ofList returned.text ++ ";")

variable (expected returned : SignedLiteral)

/-- The pair of two literals is one of Java. -/
theorem language?_ofLiterals : (ofLiterals expected returned).language? = some .java := by
  have hfile : Language.ofPath? "src/main/java/Calc.java" = some .java := by decide
  have hmethod : (ofLiterals expected returned).method.file = "src/main/java/Calc.java" := rfl
  rw [Pair.language?, hmethod, hfile]

/-- The test asserts that the result equals the expected literal. -/
theorem toList_test_ofLiterals :
    (ofLiterals expected returned).test.body.toList = Reader.Java.equality expected := by
  unfold ofLiterals sample Reader.Java.equality
  simp only [String.toList_append, String.toList_ofList, List.append_assoc]

/-- The method returns the other literal. -/
theorem toList_method_ofLiterals :
    (ofLiterals expected returned).method.body.toList = returning returned := by
  have hend : ";".toList = [';'] := by decide
  unfold ofLiterals sample returning
  simp only [String.toList_append, String.toList_ofList, List.append_assoc, hend]

/-- The test makes one assertion, which expects the literal. -/
theorem exists_assertions_ofLiterals :
    ∃ actual, (ofLiterals expected returned).test.assertions =
      [⟨.equals, some (String.ofList expected.text), actual, 1,
        String.ofList (Reader.Java.equality expected)⟩] := by
  have hassertions : (ofLiterals expected returned).test.assertions =
      Reader.Java.assertions .junit5 (Reader.Java.equality expected) 1 := by
    rw [← toList_test_ofLiterals expected returned]
    rfl
  rw [hassertions]
  exact Reader.Java.exists_assertions_eq expected (by decide) 1

/-- The test expects one number. -/
theorem expectations_ofLiterals :
    Static.expectations (ofLiterals expected returned).test.assertions =
      [⟨1, expected.value⟩] := by
  obtain ⟨actual, hassertions⟩ := exists_assertions_ofLiterals expected returned
  simp only [Static.expectations, hassertions, List.filterMap_cons, List.filterMap_nil,
    Static.expectation?, if_true, Option.bind_some, String.toList_ofList,
    expected.readNumeric?_text, Option.map_some]

/-- The method mentions one number. -/
theorem values_ofLiterals :
    (ofLiterals expected returned).values =
      [⟨.returned, returned.value, 1, returning returned⟩] := by
  rw [values, toList_method_ofLiterals]
  exact ofBody_returning returned 1

end Pair

/-! ## The outlines -/

namespace Outline

variable (expected returned : SignedLiteral)

/-- The outline of the test expects the number that is read as an expectation elsewhere. -/
theorem exists_assertions_equality (first : Nat) :
    ∃ matcher, ByLine.assertions .java (Reader.Java.equality expected) first =
      [⟨matcher, some expected.text, some expected.value, first⟩] := by
  have hframework : ByLine.frameworkOf .java (Reader.Java.equality expected) ≠ .testng := by
    rw [ByLine.frameworkOf]
    split
    · decide
    · exact Reader.Java.framework_equality_ne_testng expected
  have hdialect : Language.java.dialect.assertions = Reader.Java.assertions := rfl
  obtain ⟨actual, hassertions⟩ := Reader.Java.exists_assertions_eq expected hframework first
  refine ⟨trim ((Reader.Java.equality expected).takeWhile (· != '(')), ?_⟩
  simp only [ByLine.assertions, hdialect, hassertions, List.filterMap_cons, List.filterMap_nil,
    if_true, Option.map_some, Option.bind_some, String.toList_ofList, expected.readNumeric?_text]

/-- The constants of a file are no returned numbers. -/
theorem numericReturns_withConstants (o file : Outline) :
    numericReturns (o.withConstants file) = numericReturns o :=
  rfl

/-- The outlines mismatch exactly when the numbers are not near each other, whatever constants the
file of the method has. -/
theorem comparePair_ofLiterals (file : Option (List Char)) (grammars : Grammars) :
    (∃ m, comparePair .java ⟨Reader.Java.equality expected, 1⟩ ⟨returning returned, 1⟩ file
        grammars = .mismatch m) ↔
      near returned.value expected.value = false := by
  obtain ⟨matcher, hexpected⟩ := exists_assertions_equality expected 1
  have hreturned : (numericReturns (ByLine.outline .java (returning returned) 1)).map Prod.snd =
      [returned.value] := by
    rw [numericReturns_outline, ofBody_returning]
    rfl
  have hcompare (o : Outline) (h : (numericReturns o).map Prod.snd = [returned.value]) :
      (∃ m, compare (ByLine.outline .java (Reader.Java.equality expected) 1) o = .mismatch m) ↔
        near returned.value expected.value = false := by
    rw [compare_eq_mismatch_iff, assertions_outline, hexpected, h]
    simp only [List.mem_singleton, exists_eq_left, Option.mem_some_iff, exists_eq_left',
      Contradicted, List.cons_ne_nil, if_false, forall_eq]
  have htext (text : List Char) :
      ofText .java text 1 grammars = ByLine.outline .java text 1 := rfl
  simp only [comparePair, htext]
  cases file with
  | none => exact hcompare _ hreturned
  | some text =>
    refine hcompare _ ?_
    rw [numericReturns_withConstants, hreturned]

end Outline

/-! ## The search -/

namespace Static

variable (expected returned : SignedLiteral) (file : Option (List Char))
  (grammars : Outline.Grammars)

/-- The outlines of both mismatch exactly when the numbers are not near each other. -/
private theorem mismatch_ofLiterals :
    (∃ m, Outline.comparePair .java
        ⟨(Pair.ofLiterals expected returned).test.body.toList,
          (Pair.ofLiterals expected returned).test.line⟩
        ⟨(Pair.ofLiterals expected returned).method.body.toList,
          (Pair.ofLiterals expected returned).method.line⟩ file grammars = .mismatch m) ↔
      near returned.value expected.value = false := by
  rw [Pair.toList_test_ofLiterals, Pair.toList_method_ofLiterals]
  exact Outline.comparePair_ofLiterals expected returned file grammars

/-- Numbers that are not near each other are reported as a mismatch of returned values. -/
theorem exists_detect?_ofLiterals (h : near returned.value expected.value = false) :
    ∃ d, detect? (.ofLiterals expected returned) file grammars = some d ∧ d.found = true ∧
      d.stage = .static ∧ d.divergence.map Divergence.kind = some .returnValue := by
  obtain ⟨divergence, confidence, details, houtline, hkind⟩ := exists_outlineMismatch?
    (Pair.language?_ofLiterals expected returned)
    ((mismatch_ofLiterals expected returned file grammars).mpr h)
  rw [detect?, houtline]
  exact ⟨_, rfl, rfl, rfl, congrArg some hkind⟩

/-- About numbers near each other nothing is reported. -/
theorem detect?_ofLiterals (h : near returned.value expected.value = true) :
    detect? (.ofLiterals expected returned) file grammars = none := by
  have houtline : outlineMismatch? (.ofLiterals expected returned) file grammars = none := by
    refine outlineMismatch?_eq_none (Pair.language?_ofLiterals expected returned) ?_
    rw [mismatch_ofLiterals, h]
    exact Bool.noConfusion
  have hexplained : (Pair.ofLiterals expected returned).Explained := by
    obtain ⟨actual, hassertions⟩ := Pair.exists_assertions_ofLiterals expected returned
    intro a ha _ text htext e he
    rw [hassertions] at ha
    obtain rfl := List.mem_singleton.mp ha
    obtain rfl := Option.mem_some_iff.mp htext
    rw [String.toList_ofList, expected.readNumeric?_text] at he
    obtain rfl := Option.mem_some_iff.mp he
    rw [Pair.values_ofLiterals]
    refine ⟨_, List.mem_singleton_self _, ?_⟩
    rw [explains, h, Bool.true_or]
  have herror : missingError? (.ofLiterals expected returned) = none := by
    obtain ⟨actual, hassertions⟩ := Pair.exists_assertions_ofLiterals expected returned
    simp only [missingError?, hassertions, List.find?_cons, List.find?_nil]
    rfl
  rw [detect?, houtline, valueMismatch?_eq_none hexplained, herror]

end Static

/-- Nothing is inferred about numbers near each other. -/
theorem Inference.detect?_ofLiterals {expected returned : SignedLiteral}
    (h : near returned.value expected.value = true) :
    Inference.detect? (.ofLiterals expected returned) = none := by
  have hnone : Inference.ofPair? (.ofLiterals expected returned) = none := by
    rw [Inference.ofPair?_eq_none_iff, Pair.expectations_ofLiterals]
    intro e he
    rw [List.mem_singleton.mp he, Pair.Mentions, Pair.values_ofLiterals]
    exact .inl ⟨_, List.mem_singleton_self _, h⟩
  rw [Inference.detect?, hnone, Option.map_none]

/-- A test that expects one literal of a method that returns another one agrees with it, with the
confidence of agreement, exactly when the difference of the two numbers is less than a thousandth.
Otherwise a mismatch of returned values is reported, and no other stage is heard. -/
theorem literals_diverge_unless_near (expected returned : SignedLiteral) (file : Option String)
    (grammars : Outline.Grammars) :
    ∃ d : Detection,
      (∀ (m : Type → Type) [Monad m] [LawfulMonad m],
        Cascade.detect (Cascade.strategies none grammars)
            ⟨.ofLiterals expected returned, none, file⟩ =
          (pure d : m Detection)) ∧
      if Number.abs (returned.value - expected.value) < 0.001 then
        d.found = false ∧ d.divergence = none ∧ d.confidence = 0.99 ∧ d.stage = .nothing
      else
        d.found = true ∧ d.stage = .static ∧
          d.divergence.map Divergence.kind = some .returnValue := by
  refine ⟨Cascade.ofNumbers grammars ⟨.ofLiterals expected returned, none, file⟩,
    fun m _ _ => Cascade.detect_strategies_none rfl, ?_⟩
  rw [Cascade.ofNumbers]
  split
  next h =>
    have hnear : near returned.value expected.value = true := decide_eq_true h
    rw [Static.detect?_ofLiterals expected returned _ grammars hnear,
      Inference.detect?_ofLiterals hnear]
    exact ⟨rfl, rfl, rfl, rfl⟩
  next h =>
    have hnear : near returned.value expected.value = false := decide_eq_false h
    obtain ⟨d, hd, hreport⟩ := Static.exists_detect?_ofLiterals expected returned
      (file.map String.toList) grammars hnear
    rw [hd]
    exact hreport

end Adjudicator
