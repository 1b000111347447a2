import Adjudicator.Divergence.Inference
import Adjudicator.Proofs.Outline.Contradiction

/-!
# Explained expectations

An expectation is explained when a value of the method's body is the expected number, as it stands
or as a percentage. The comparison of values never reports an explained expectation. Each report
comes about in one of a few ways, which are listed here once. Main statement: outlines, which are
compared first, go by their own rule, so a pair whose expectations are all explained is reported
exactly when its outlines contradict one of them.
-/

namespace Adjudicator

open Text Value

/-- The values that the body of a pair's method mentions. -/
def Pair.values (pair : Pair) : List SourceValue :=
  ofBody pair.method.body.toList pair.method.line

/-- Every number that an equality assertion of the test expects is explained by a value of the
method. -/
def Pair.Explained (pair : Pair) : Prop :=
  ∀ a ∈ pair.test.assertions, a.kind = .equals → ∀ text ∈ a.expected,
    ∀ e ∈ readNumeric? text.toList, ∃ v ∈ pair.values, Static.explains v.value e = true

instance (pair : Pair) : Decidable pair.Explained := by
  delta Pair.Explained
  infer_instance

namespace Static

/-- An expectation is the number of the text that an equality assertion expects. -/
private theorem expectation?_eq_some_iff {a : Assertion} {e : Expectation} :
    expectation? a = some e ↔
      a.kind = .equals ∧ ∃ text ∈ a.expected, readNumeric? text.toList = some e.value ∧
        e.line = a.line := by
  rw [expectation?]
  split
  next hkind =>
    simp only [Option.bind_eq_some_iff, Option.map_eq_some_iff, Option.mem_def, hkind, true_and]
    constructor
    · rintro ⟨text, htext, value, hvalue, rfl⟩
      exact ⟨text, htext, hvalue, rfl⟩
    · rintro ⟨text, htext, hvalue, hline⟩
      exact ⟨text, htext, e.value, hvalue, by rw [← hline]⟩
  next hkind => simp only [reduceCtorEq, hkind, false_and]

/-- An explained pair has an explaining value for each expectation. -/
theorem exists_explains {pair : Pair} (h : pair.Explained) {e : Expectation}
    (he : e ∈ expectations pair.test.assertions) :
    ∃ v ∈ pair.values, explains v.value e.value = true := by
  obtain ⟨a, ha, he⟩ := List.mem_filterMap.mp he
  obtain ⟨hkind, text, htext, hvalue, _⟩ := expectation?_eq_some_iff.mp he
  exact h a ha hkind text htext e.value hvalue

/-- The values of an explained pair report nothing. -/
theorem valueMismatch?_eq_none {pair : Pair} (h : pair.Explained) : valueMismatch? pair = none := by
  have hall : ((expectations pair.test.assertions).filter fun e =>
      !pair.values.any fun v => explains v.value e.value) = [] := by
    rw [List.filter_eq_nil_iff]
    intro e he
    obtain ⟨v, hv, hexplains⟩ := exists_explains h he
    rw [List.any_eq_true.mpr ⟨v, hv, hexplains⟩]
    exact Bool.false_ne_true
  rw [valueMismatch?, ← Pair.values, hall]
  rfl

/-- The kind of the divergence that a detection reports. -/
def kind? (d : Option Detection) : Option DivergenceKind :=
  d.bind fun d => d.divergence.map Divergence.kind

/-! ## What is reported -/

/-- How the comparison of a pair comes to hold one number against another. -/
inductive Opposes (pair : Pair) (file : Option (List Char)) (grammars : Outline.Grammars) :
    Float → Float → Prop
  /-- By the outlines of both. -/
  | outlines {language : Language} {m : Outline.Mismatch}
      (h : Outline.comparePair language ⟨pair.test.body.toList, pair.test.line⟩
        ⟨pair.method.body.toList, pair.method.line⟩ file grammars = .mismatch m) :
      Opposes pair file grammars m.expected m.actual
  /-- By a value that is close to an expectation. -/
  | ratio {e : Expectation} {v : SourceValue} (he : e ∈ expectations pair.test.assertions)
      (hv : v ∈ pair.values) (hmiss : isCloseMiss e.value v.value = true) :
      Opposes pair file grammars e.value v.value
  /-- By what a rate gives for an expected percentage. -/
  | rate {e : Expectation} {v : SourceValue} (he : e ∈ expectations pair.test.assertions)
      (hv : v ∈ pair.values) (hdiscounted : isDiscounted e.value = true)
      (hrate : isRate v.value = true) (hgap : 0.0 < (impliedPercentage e.value v.value).2) :
      Opposes pair file grammars e.value (impliedPercentage e.value v.value).1

/-- What the comparison of a pair can report: two numbers that are held against each other, or an
error that is never raised. -/
inductive Reports (pair : Pair) (file : Option (List Char)) (grammars : Outline.Grammars) :
    Detection → Prop
  | numbers {x y : Float} (h : Opposes pair file grammars x y) (description : String)
      (testLine codeLine : Nat) (confidence : Float) (details : String) :
      Reports pair file grammars
        (.reported .static
          { kind := .returnValue, description, testLine, codeLine, expected := shownText x
            actual := shownText y }
          confidence details)
  | error (description expected actual : String) (testLine codeLine : Nat) (confidence : Float)
      (details : String) :
      Reports pair file grammars
        (.reported .static
          { kind := .exception, description, testLine, codeLine, expected, actual }
          confidence details)

section Reported

variable {pair : Pair} {file : Option (List Char)} {grammars : Outline.Grammars} {d : Detection}

private theorem reports_of_outlineMismatch? (h : outlineMismatch? pair file grammars = some d) :
    Reports pair file grammars d := by
  obtain ⟨language, _, h⟩ := Option.bind_eq_some_iff.mp h
  split at h
  next m hm =>
    obtain rfl := Option.some.inj h
    exact .numbers (.outlines hm) ..
  next => cases h

private theorem reports_of_ratioMismatch? {e : Expectation}
    (he : e ∈ expectations pair.test.assertions) (h : ratioMismatch? pair.values e = some d) :
    Reports pair file grammars d := by
  rw [ratioMismatch?] at h
  split at h
  · cases h
  · obtain ⟨v, hv, rfl⟩ := Option.map_eq_some_iff.mp h
    have hmiss := List.find?_some hv
    exact .numbers (.ratio he (List.mem_of_find?_eq_some hv) hmiss) ..

private theorem reports_of_rateMismatch? {e : Expectation}
    (he : e ∈ expectations pair.test.assertions) (h : rateMismatch? pair.values e = some d) :
    Reports pair file grammars d := by
  rw [rateMismatch?] at h
  split at h
  next hdiscounted =>
    obtain ⟨v, hv, h⟩ := List.exists_of_findSome?_eq_some h
    rw [rateMismatchWith?] at h
    dsimp only at h
    split at h
    next hrate =>
      obtain rfl := Option.some.inj h
      simp only [Bool.and_eq_true, decide_eq_true_eq] at hrate
      exact .numbers (.rate he hv hdiscounted hrate.1.1 hrate.1.2) ..
    next => cases h
  next => cases h

private theorem reports_of_valueMismatch? (h : valueMismatch? pair = some d) :
    Reports pair file grammars d := by
  rw [valueMismatch?] at h
  split at h
  next hratio =>
    obtain rfl := Option.some.inj h
    obtain ⟨e, he, h⟩ := List.exists_of_findSome?_eq_some hratio
    exact reports_of_ratioMismatch? (List.mem_filter.mp he).1 h
  next =>
    obtain ⟨e, he, h⟩ := List.exists_of_findSome?_eq_some h
    exact reports_of_rateMismatch? (List.mem_filter.mp he).1 h

/-- The kind of an error that is never raised. -/
private theorem exists_of_missingError? (h : missingError? pair = some d) :
    ∃ description expected actual testLine codeLine confidence details,
      d = .reported .static
        { kind := .exception, description, testLine, codeLine, expected, actual } confidence
        details := by
  obtain ⟨a, _, h⟩ := Option.bind_eq_some_iff.mp h
  obtain ⟨_, _, h⟩ := Option.bind_eq_some_iff.mp h
  exact ⟨_, _, _, _, _, _, _, (Option.some.inj h).symm⟩

/-- Whatever the comparison of a pair reports has come about in one of its ways. -/
theorem reports_of_detect? (h : detect? pair file grammars = some d) :
    Reports pair file grammars d := by
  rw [detect?] at h
  split at h
  next houtline =>
    obtain rfl := Option.some.inj h
    exact reports_of_outlineMismatch? houtline
  next =>
    split at h
    next hvalue =>
      obtain rfl := Option.some.inj h
      exact reports_of_valueMismatch? hvalue
    next =>
      obtain ⟨_, _, _, _, _, _, _, rfl⟩ := exists_of_missingError? h
      exact .error ..

/-- An error that is never raised is no divergence between numbers. -/
private theorem kind?_missingError? : kind? (missingError? pair) ≠ some .returnValue := by
  intro h
  obtain ⟨d, hd, hkind⟩ := Option.bind_eq_some_iff.mp h
  obtain ⟨_, _, _, _, _, _, _, rfl⟩ := exists_of_missingError? hd
  cases hkind

end Reported

section Outlines

variable {pair : Pair} {language : Language} {file : Option (List Char)}
  {grammars : Outline.Grammars}

/-- Outlines that mismatch are reported. -/
theorem exists_outlineMismatch? (hlanguage : pair.language? = some language)
    (h : ∃ m, Outline.comparePair language ⟨pair.test.body.toList, pair.test.line⟩
      ⟨pair.method.body.toList, pair.method.line⟩ file grammars = .mismatch m) :
    ∃ divergence confidence details,
      outlineMismatch? pair file grammars = some (.reported .static divergence confidence details) ∧
        divergence.kind = .returnValue := by
  obtain ⟨m, hm⟩ := h
  simp only [outlineMismatch?, hlanguage, Option.bind_eq_bind, Option.bind_some, hm]
  exact ⟨_, _, _, rfl, rfl⟩

/-- Outlines that do not mismatch report nothing. -/
theorem outlineMismatch?_eq_none (hlanguage : pair.language? = some language)
    (h : ¬∃ m, Outline.comparePair language ⟨pair.test.body.toList, pair.test.line⟩
      ⟨pair.method.body.toList, pair.method.line⟩ file grammars = .mismatch m) :
    outlineMismatch? pair file grammars = none := by
  simp only [outlineMismatch?, hlanguage, Option.bind_eq_bind, Option.bind_some]
  split
  next m hm => exact absurd ⟨m, hm⟩ h
  next => rfl

/-- Outlines are reported exactly when they mismatch. -/
private theorem kind?_outlineMismatch? (hlanguage : pair.language? = some language)
    (file : Option (List Char)) (grammars : Outline.Grammars) :
    kind? (outlineMismatch? pair file grammars) = some .returnValue ↔
      ∃ m, Outline.comparePair language ⟨pair.test.body.toList, pair.test.line⟩
        ⟨pair.method.body.toList, pair.method.line⟩ file grammars = .mismatch m := by
  constructor
  · intro hkind
    by_contra hno
    rw [outlineMismatch?_eq_none hlanguage hno] at hkind
    cases hkind
  · intro hmismatch
    obtain ⟨divergence, _, _, hreported, hkind⟩ := exists_outlineMismatch? hlanguage hmismatch
    rw [hreported]
    exact congrArg some hkind

end Outlines

/-- When values report nothing, the outlines decide whether numbers diverge. -/
private theorem kind?_detect? {pair : Pair} {file : Option (List Char)}
    {grammars : Outline.Grammars} (h : valueMismatch? pair = none) :
    kind? (detect? pair file grammars) = some .returnValue ↔
      kind? (outlineMismatch? pair file grammars) = some .returnValue := by
  delta detect?
  rw [h]
  cases outlineMismatch? pair file grammars with
  | some d => rfl
  | none => exact iff_of_false kind?_missingError? nofun

/-- The languages whose outlines are read line by line. -/
def linewise : List Language :=
  [.java, .go, .rust, .csharp]

private theorem ofText_eq {language : Language} (h : language ∈ linewise) (text : List Char)
    (first : Nat) (grammars : Outline.Grammars) :
    Outline.ofText language text first grammars =
      Outline.ByLine.outline language text first := by
  simp only [linewise, List.mem_cons, List.not_mem_nil, or_false] at h
  rcases h with rfl | rfl | rfl | rfl <;> rfl

/-- The comparison of values reports nothing for an explained pair. In a language that is read line
by line such a pair diverges in numbers exactly when its outlines contradict an expectation: by the
returned values, when there are any, or else by the rates among the constants. Other values that
explain an expectation do not count there. -/
theorem diverges_iff_contradicted {pair : Pair} {language : Language} (hline : language ∈ linewise)
    (hlanguage : pair.language? = some language) (hexplained : pair.Explained)
    (grammars : Outline.Grammars) :
    valueMismatch? pair = none ∧
      (kind? (detect? pair none grammars) = some .returnValue ↔
        ∃ a ∈ Outline.ByLine.assertions language pair.test.body.toList pair.test.line,
          ∃ expected ∈ a.value,
            Outline.Contradicted (Outline.returnedNumbers pair.values)
              ((Outline.rates (Outline.ByLine.outline language pair.method.body.toList
                pair.method.line)).map Prod.snd) expected) := by
  refine ⟨valueMismatch?_eq_none hexplained, ?_⟩
  rw [kind?_detect? (valueMismatch?_eq_none hexplained), kind?_outlineMismatch? hlanguage,
    Outline.comparePair]
  simp only [ofText_eq hline]
  rw [Outline.compare_eq_mismatch_iff, Outline.assertions_outline,
    Outline.numericReturns_outline, Pair.values]

/-- A test that expects one number of a method with the given body. -/
def expecting (number body : String) : Pair :=
  { test :=
      { name := "testCalculate", file := "src/test/java/CalcTest.java", line := 1, endLine := 1
        framework := .junit5
        assertions :=
          [{ kind := .equals, expected := some number, actual := some "calc.calculate(1)", line := 1
             raw := "assertEquals(" ++ number ++ ", calc.calculate(1));" }]
        body := "assertEquals(" ++ number ++ ", calc.calculate(1));" }
    method :=
      { name := "calculate", file := "src/main/java/Calc.java", line := 1, endLine := 1
        parameters := [], result := none, body, owner := some "Calc" }
    confidence := 0.8, link := .callGraph }

/-- A guard returns a number, and what is returned behind it is not known. -/
def guarded : Pair :=
  expecting "10" "if (n == 0)\n    return 0;\nreturn n * 10;"

/-- A factor is given a name and nothing known is returned. -/
def scaled : Pair :=
  expecting "85" "double factor = 0.85;\nreturn price * factor;"

private theorem explained_and_diverge :
    (guarded.Explained ∧ kind? (detect? guarded none) = some .returnValue) ∧
      scaled.Explained ∧ kind? (detect? scaled none) = some .returnValue := by
  decide +kernel

/-- The number that a guard returns contradicts an expectation that is explained. -/
theorem guard_contradicts :
    (.java ∈ linewise ∧ guarded.language? = some .java ∧ guarded.Explained) ∧
      valueMismatch? guarded = none ∧
      ∃ a ∈ Outline.ByLine.assertions .java guarded.test.body.toList guarded.test.line,
        ∃ expected ∈ a.value,
          Outline.Contradicted (Outline.returnedNumbers guarded.values)
            ((Outline.rates (Outline.ByLine.outline .java guarded.method.body.toList
              guarded.method.line)).map Prod.snd) expected := by
  have hline : Language.java ∈ linewise := by decide
  have hlanguage : guarded.language? = some .java := by decide
  obtain ⟨hexplained, hdiverges⟩ := explained_and_diverge.1
  obtain ⟨hvalues, hiff⟩ := diverges_iff_contradicted hline hlanguage hexplained .usual
  exact ⟨⟨hline, hlanguage, hexplained⟩, hvalues, hiff.mp hdiverges⟩

/-- Explained pairs that are read line by line can diverge in numbers: for the number of a guard,
and for a factor that is taken for a rate. -/
theorem explained_pairs_can_diverge :
    (guarded.language? = some .java ∧ guarded.Explained ∧
      kind? (detect? guarded none) = some .returnValue) ∧
    (scaled.language? = some .java ∧ scaled.Explained ∧
      kind? (detect? scaled none) = some .returnValue) :=
  ⟨⟨by decide, explained_and_diverge.1⟩, by decide, explained_and_diverge.2⟩

end Static

end Adjudicator
