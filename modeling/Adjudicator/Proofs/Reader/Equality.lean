import Adjudicator.Proofs.Code.Arguments
import Adjudicator.Proofs.Outline.Sides
import Adjudicator.Proofs.Text.Lines
import Adjudicator.Proofs.Value.Signed

/-!
# Asserted literals

A line of a Java test that asserts a literal is read by one idiom only, since every other idiom
needs a word that is not on the line. Main statement: the line makes one equality assertion whose
expected side is the literal as it is written, under every framework but TestNG.
-/

namespace Adjudicator

open Text Pattern Value

namespace Reader

/-- Cleaning takes characters off and adds none. -/
theorem mem_of_mem_cleanValue {c : Char} {v : List Char} (h : c ∈ cleanValue v) : c ∈ v := by
  have hbefore {ending front s : List Char} (hfront : beforeEnd? ending s = some front)
      (hc : c ∈ front) : c ∈ s := by
    rw [← List.isSuffixOf?_eq_some_iff_append_eq.mp hfront]
    exact List.mem_append_left ending hc
  have htrimmed {p : Char → Bool} (hc : c ∈ trim (dropEndWhile p (trim v))) : c ∈ v :=
    mem_of_mem_trim ((List.rdropWhile_prefix p (trim v)).subset (mem_of_mem_trim hc))
  unfold cleanValue at h
  simp only at h
  split at h
  next front hfront => exact htrimmed (hbefore hfront (mem_of_mem_trim h))
  next =>
    split at h
    next front hfront => exact htrimmed (hbefore hfront (mem_of_mem_trim h))
    next => exact htrimmed (mem_of_mem_trim h)

/-- A value without the ends that cleaning takes off. -/
structure Unpunctuated (v : List Char) : Prop where
  /-- No punctuation of statements is behind it. -/
  mark : ∀ c ∈ v.getLast?, c ≠ ';' ∧ c ≠ ','
  /-- It is not a class literal. -/
  literal : ¬".class".toList <:+ v
  /-- It is not a qualified class literal. -/
  qualified : ¬"::class".toList <:+ v

instance (v : List Char) : Decidable (Unpunctuated v) :=
  decidable_of_iff ((v.getLast?.all fun c => c ≠ ';' ∧ c ≠ ',') = true ∧
      ¬".class".toList <:+ v ∧ ¬"::class".toList <:+ v)
    ⟨fun ⟨hmark, hliteral, hqualified⟩ =>
        ⟨fun c hc => of_decide_eq_true ((Option.all_eq_true _ _).mp hmark c hc), hliteral,
          hqualified⟩,
      fun h => ⟨(Option.all_eq_true _ _).mpr fun c hc => decide_eq_true (h.mark c hc), h.literal,
        h.qualified⟩⟩

/-- A value without punctuation around it is clean. -/
theorem Unpunctuated.cleanValue_eq {v : List Char} (h : Unpunctuated v) (htrim : trim v = v) :
    cleanValue v = v := by
  have hbefore {ending : List Char} (hv : ¬ending <:+ v) : beforeEnd? ending v = none := by
    rw [Option.eq_none_iff_forall_ne_some]
    intro front hfront
    exact hv ⟨front, List.isSuffixOf?_eq_some_iff_append_eq.mp hfront⟩
  have hdrop : dropEndWhile (fun c => c == ';' || c == ',') v = v := by
    refine List.rdropWhile_eq_self_iff.mpr fun hne => ?_
    have hlast := h.mark _ (List.getLast?_eq_some_getLast hne)
    simp [hlast.1, hlast.2]
  simp only [cleanValue, htrim, hdrop, hbefore h.literal, hbefore h.qualified]

/-- A value without blanks, points and colons at the right places is clean. -/
theorem cleanValue_eq_self {s : List Char} (htrim : trim s = s)
    (hend : ∀ c ∈ s, (c == ';' || c == ',') = false) (hclass : 's' ∉ s) : cleanValue s = s := by
  refine Unpunctuated.cleanValue_eq ⟨fun c hc => ?_, fun h => ?_, fun h => ?_⟩ htrim
  · simpa using hend c (List.mem_of_mem_getLast? hc)
  · exact hclass (h.subset (by decide))
  · exact hclass (h.subset (by decide))

namespace Java

/-! ## The line -/

/-- The line that asserts a literal of a call. -/
def equality (x : SignedLiteral) : List Char :=
  "assertEquals(".toList ++ (x.text ++ ", calc.calculate(1));".toList)

variable (x : SignedLiteral)

private theorem isPlain_of_mem : ∀ c ∈ x.text, Code.isPlain c = true :=
  x.forall_mem_text (by decide)

/-- A word in letters is on the line when it is in one of the two fixed parts. -/
theorem infix_equality {w : List Char}
    (hw : ("-.0123456789".toList.all fun c => c ∉ w) = true) (h : w <:+: equality x) :
    w <:+: "assertEquals(".toList ∨ w <:+: ", calc.calculate(1));".toList :=
  infix_or_of_infix_append x.text_ne_nil (x.forall_mem_text hw) h

private theorem head?_equality : (equality x).head? = some 'a' := by
  unfold equality
  simp only [String.reduceToList, List.cons_append, List.head?_cons]

private theorem getLast?_equality : (equality x).getLast? = some ';' := by
  have hlast : ", calc.calculate(1));".toList.getLast? = some ';' := by
    simp only [String.reduceToList]
    rfl
  unfold equality
  simp only [List.getLast?_append, hlast, Option.some_or]

/-- No blanks are around the statement. -/
theorem trim_equality : trim (equality x) = equality x :=
  trim_eq_self_of_ends (head?_equality x) (getLast?_equality x) (by decide)

/-- The statement is on one line. -/
theorem lines_equality : lines (equality x) = [equality x] := by
  have hne : equality x ≠ [] := List.ne_nil_of_mem (List.mem_of_mem_head? (head?_equality x))
  have hfixed : '\n' ∉ "assertEquals(".toList ∧ '\n' ∉ ", calc.calculate(1));".toList := by
    simp only [String.reduceToList]
    decide
  refine lines_eq_singleton hne fun h => ?_
  unfold equality at h
  simp only [List.mem_append] at h
  rcases h with h | h | h
  · exact hfixed.1 h
  · exact x.forall_mem_text (P := fun c => c ≠ '\n') (by decide) _ h rfl
  · exact hfixed.2 h

/-! ## The idioms -/

/-- The words of which every idiom but the first needs one. -/
def otherWords : List String :=
  ["assertArrayEquals", "assertSame", "assertNotEquals", "assertTrue", "assertFalse", "assertNull",
    "assertNotNull", "assertThrows", "assertDoesNotThrow", "fail", "assertThat",
    "assertThatThrownBy", "assertThatExceptionOfType"]

/-- A pattern that needs one of the words. -/
def NeedsOther (p : Pattern) : Prop :=
  ∃ word ∈ otherWords, p.Needs word.toList

section Others

variable {p q : Pattern} {word : String}

private theorem NeedsOther.append (h : NeedsOther p) : NeedsOther (p ++ q) :=
  have ⟨word, hword, hneeds⟩ := h
  ⟨word, hword, hneeds.append⟩

private theorem needsOther_boundary (h : word ∈ otherWords) :
    NeedsOther (boundary ++ Pattern.text word) :=
  ⟨word, h, needs_boundary word⟩

private theorem needsOther_callOf (h : word ∈ otherWords) :
    NeedsOther (callOf [Pattern.text word]) :=
  (needsOther_boundary h).append.append

private theorem needsOther_chainFrom (h : word ∈ otherWords) :
    NeedsOther (chainFrom (Pattern.text word)) :=
  (needsOther_boundary h).append.append.append.append.append

private theorem needsOther_freshStart (h : word ∈ otherWords) :
    NeedsOther (freshStart ++ Pattern.text word) :=
  ⟨word, h, (needs_text word).behind⟩

end Others

/-- Every idiom but the first needs a word of its own. -/
theorem needsOther_pattern {i : Idiom}
    (hi : i ∈ junitIdioms.tail ++ fluentIdioms ++ matcherIdioms) : NeedsOther i.pattern := by
  have hjunit : ∀ i ∈ junitIdioms.tail, NeedsOther i.pattern := by
    simp only [junitIdioms, List.tail_cons, List.forall_mem_cons]
    refine ⟨needsOther_callOf ?_, needsOther_callOf ?_, needsOther_callOf ?_, needsOther_callOf ?_,
      needsOther_callOf ?_, needsOther_callOf ?_, needsOther_callOf ?_, needsOther_callOf ?_,
      needsOther_callOf ?_, (needsOther_freshStart ?_).append.append, nofun⟩
    all_goals simp [otherWords]
  have hfluent : ∀ i ∈ fluentIdioms, NeedsOther i.pattern := by
    simp only [fluentIdioms, List.forall_mem_cons]
    refine ⟨(needsOther_chainFrom ?_).append.append.append,
      (needsOther_chainFrom ?_).append.append.append.append,
      (needsOther_chainFrom ?_).append.append.append,
      (needsOther_chainFrom ?_).append.append.append,
      (needsOther_boundary ?_).append.append, needsOther_callOf ?_, nofun⟩
    all_goals simp [otherWords]
  have hmatcher : ∀ i ∈ matcherIdioms, NeedsOther i.pattern := by
    simp only [matcherIdioms, List.forall_mem_cons]
    refine ⟨?_, nofun⟩
    -- The call stands in front of eighteen other parts.
    iterate 18 apply NeedsOther.append
    exact needsOther_callOf (by simp [otherWords])
  rcases List.mem_append.mp hi with hi | hi
  · rcases List.mem_append.mp hi with hi | hi
    · exact hjunit i hi
    · exact hfluent i hi
  · exact hmatcher i hi

/-- On the line only the first idiom is found. -/
theorem read?_eq_none {i : Idiom} (hi : i ∈ junitIdioms.tail ++ fluentIdioms ++ matcherIdioms)
    (number : Nat) : i.read? number (equality x) = none := by
  have hletters : ∀ word ∈ otherWords,
      ("-.0123456789".toList.all fun c => c ∉ word.toList) = true ∧
      ¬word.toList <:+: "assertEquals(".toList ∧
      ¬word.toList <:+: ", calc.calculate(1));".toList := by
    refine List.all_iff_forall_prop.mp ?_
    simp only [otherWords, List.all_cons, List.all_nil, String.reduceToList]
    decide
  obtain ⟨word, hword, hneeds⟩ := needsOther_pattern hi
  obtain ⟨hnumber, hfront, hback⟩ := hletters word hword
  have hnone : i.pattern.find? (equality x) = none := by
    refine hneeds.find?_eq_none fun h => ?_
    exact (infix_equality x hnumber h).elim hfront hback
  rw [Idiom.read?, hnone, Option.map_none, ite_self]

/-- The idiom of plain equality. -/
def plainEquality : Idiom :=
  ⟨callOf ["assertEquals"], .equals, .argument 0, .argument 1, []⟩

private theorem equality_eq : equality x =
    "assertEquals".toList ++ '(' :: (x.text ++ ", calc.calculate(1));".toList) := by
  unfold equality
  simp only [String.reduceToList, List.cons_append, List.nil_append]

/-- The name of the assertion with its parenthesis. -/
private def called : Match :=
  ⟨equality x, 0, "assertEquals".toList.length + 1, []⟩

private theorem find?_plainEquality :
    plainEquality.pattern.find? (equality x) = some (called x) := by
  obtain ⟨rest, hrest⟩ : ∃ rest, equality x = "assertEquals".toList ++ '(' :: rest :=
    ⟨_, equality_eq x⟩
  have hborder : boundary.tryAt (.start (equality x)) = some (.start (equality x)) := by
    refine tryAt_look ?_
    simp only [Cursor.start, head?_equality, Option.any_none, Option.any_some]
    decide
  have hname : (Pattern.text "assertEquals").tryAt (.start (equality x)) = _ := tryAt_text hrest
  have hgap : gap.tryAt ((Cursor.start (equality x)).past "assertEquals".toList ('(' :: rest)) =
      some ((Cursor.start (equality x)).past "assertEquals".toList ('(' :: rest)) :=
    tryAt_star_one_of_not fun c hc => by
      obtain rfl := Option.mem_some_iff.mp hc
      decide
  have hparenthesis : (Pattern.text "(").tryAt
      ((Cursor.start (equality x)).past "assertEquals".toList ('(' :: rest)) =
        some (((Cursor.start (equality x)).past "assertEquals".toList ('(' :: rest)).past
          ['('] rest) :=
    tryAt_one rfl (by decide)
  have hmatch : plainEquality.pattern.tryAt (.start (equality x)) = _ :=
    tryAt_append (tryAt_append (tryAt_append hborder hname) hgap) hparenthesis
  rw [find?_of_tryAt hmatch, Cursor.past_past]
  simp only [called, Cursor.past, Cursor.start, List.length_append, List.length_singleton,
    Nat.zero_add]

/-- The arguments of the assertion. -/
private theorem exists_arguments_eq :
    ∃ others, Idiom.side?.arguments (called x) = x.text :: others := by
  have harguments : ∀ p ∈ [x.text, "calc.calculate(1)".toList], Code.IsArgument p := by
    refine List.forall_mem_cons.mpr ⟨?_, List.forall_mem_singleton.mpr (by decide)⟩
    exact Code.isArgument_of_isPlain x.text_ne_nil x.trim_text (isPlain_of_mem x)
  have hplain : ∀ p ∈ [x.text, "calc.calculate(1)".toList], Code.Reading.start.EndsPlainly p := by
    refine List.forall_mem_cons.mpr ⟨?_, List.forall_mem_singleton.mpr ?_⟩
    · exact Code.Reading.endsPlainly_of_not_mem fun h =>
        x.forall_mem_text (P := fun c => c ≠ '\\') (by decide) '\\' h rfl
    · exact Code.Reading.endsPlainly_of_not_mem (by decide)
  have hjoined : Code.joinArguments [x.text, "calc.calculate(1)".toList] =
      x.text ++ ", calc.calculate(1)".toList := by
    rw [Code.joinArguments, List.intercalate_cons_cons, List.intercalate_singleton,
      List.append_assoc]
    rfl
  have hcall : (equality x).drop "assertEquals".toList.length =
      '(' :: (Code.joinArguments [x.text, "calc.calculate(1)".toList] ++ ')' :: [';']) := by
    rw [equality_eq, List.drop_left, hjoined, List.append_assoc]
    rfl
  refine ⟨["calc.calculate(1)".toList], ?_⟩
  simp only [Idiom.side?.arguments, called, Nat.add_sub_cancel, hcall,
    Code.balancedArguments?_joinArguments harguments,
    Code.splitTopLevel_joinArguments harguments hplain, Nat.add_one_ne_zero, if_false]

/-- The expected side is the literal. -/
private theorem side?_called :
    Idiom.side? (called x) (.argument 0) = some (String.ofList x.text) := by
  have hclean : cleanValue x.text = x.text :=
    cleanValue_eq_self x.trim_text (x.forall_mem_text (by decide)) fun h =>
      x.forall_mem_text (P := fun c => c ≠ 's') (by decide) 's' h rfl
  have hempty : x.text.isEmpty = false := List.isEmpty_eq_false_iff.mpr x.text_ne_nil
  obtain ⟨others, harguments⟩ := exists_arguments_eq x
  simp only [Idiom.side?, harguments, List.getElem?_cons_zero, Idiom.side?.clean?,
    Option.map_some, Option.bind_some, hclean, hempty, Bool.false_eq_true, if_false]

/-- The line makes one assertion, which expects the literal. -/
theorem exists_scanAssertions_eq (first : Nat) :
    ∃ actual, scanAssertions idioms (equality x) first =
      [⟨.equals, some (String.ofList x.text), actual, first, String.ofList (equality x)⟩] := by
  refine ⟨Idiom.side? (called x) (.argument 1), ?_⟩
  have hcomment : Code.isComment (equality x) = false := by
    obtain ⟨rest, hrest⟩ := List.head?_eq_some_iff.mp (head?_equality x)
    rw [hrest]
    rfl
  have hfirst : plainEquality.read? first (equality x) =
      some ⟨.equals, some (String.ofList x.text), Idiom.side? (called x) (.argument 1), first,
        String.ofList (equality x)⟩ := by
    rw [Idiom.read?, find?_plainEquality, trim_equality]
    simp only [plainEquality, List.any_nil, Bool.false_eq_true, if_false, Option.map_some,
      side?_called]
  have hothers : (junitIdioms.tail ++ fluentIdioms ++ matcherIdioms).filterMap
      (·.read? first (equality x)) = [] :=
    List.filterMap_eq_nil_iff.mpr fun i hi => read?_eq_none x hi first
  have hall : idioms = plainEquality :: (junitIdioms.tail ++ fluentIdioms ++ matcherIdioms) := rfl
  rw [scanAssertions, lines_equality, List.zipIdx_cons, List.zipIdx_nil, List.flatMap_cons,
    List.flatMap_nil, List.append_nil]
  simp only [trim_equality, hcomment, Bool.false_eq_true, if_false, hall, List.filterMap_cons,
    hfirst, hothers]

/-- The line does not point to TestNG. -/
theorem framework_equality_ne_testng : framework (equality x) ≠ .testng := by
  intro h
  have hnamed := (framework_eq_testng_iff.mp h).1
  have hword : "org".toList <:+: "org.testng".toList := by
    simp only [String.reduceToList]
    decide
  have hcontains : contains "org.testng".toList (equality x) = true := by
    simpa only [containsAny, List.any_cons, List.any_nil, Bool.or_false] using hnamed
  have hstands := infix_equality x (by decide) (hword.trans (infix_of_contains hcontains))
  have hfixed : ¬"org".toList <:+: "assertEquals(".toList ∧
      ¬"org".toList <:+: ", calc.calculate(1));".toList := by
    simp only [String.reduceToList]
    decide
  exact hstands.elim hfixed.1 hfixed.2

/-- Outside of TestNG the line makes one assertion, which expects the literal. -/
theorem exists_assertions_eq {framework : Framework} (h : framework ≠ .testng) (first : Nat) :
    ∃ actual, assertions framework (equality x) first =
      [⟨.equals, some (String.ofList x.text), actual, first, String.ofList (equality x)⟩] := by
  obtain ⟨actual, hscan⟩ := exists_scanAssertions_eq x first
  refine ⟨actual, ?_⟩
  rw [assertions, hscan]
  simp only [List.map_cons, List.map_nil, h, false_and, if_false]

end Java

end Reader

end Adjudicator
