import Adjudicator.Outline.ByLine
import Adjudicator.Proofs.Outline.Contradiction

/-!
# Sides of assertions that are read twice

The assertions of a Java test are read with its file, and once more when the body alone is
outlined. TestNG writes the sides of an assertion in the other order, and each reading asks its own
text for the framework. Main statement: both readings find the same assertions on the same lines,
and they take the expected side from the same place unless only one of the two texts points to
TestNG. Imports stand outside of bodies, so for a file that imports TestNG they differ.
-/

namespace Adjudicator

open Text

namespace Reader.Java

/-- The sides of an assertion in the other order. -/
def exchanged (a : Assertion) : Assertion :=
  { a with expected := a.actual, actual := a.expected }

/-- Whether the sides of an assertion depend on the framework. -/
def Reversible (a : Assertion) : Prop :=
  containsAny ["assertEquals", "assertNotEquals"] a.raw.toList = true

instance (a : Assertion) : Decidable (Reversible a) := by
  delta Reversible
  infer_instance

/-- Whether an assertion has other sides when it is read under another framework. -/
def Turned (before after : Framework) (a : Assertion) : Prop :=
  ¬(before = .testng ↔ after = .testng) ∧ Reversible a

instance (before after : Framework) (a : Assertion) : Decidable (Turned before after a) := by
  delta Turned
  infer_instance

/-- A text is one of TestNG when it names TestNG and not the newest JUnit. -/
theorem framework_eq_testng_iff {content : List Char} : framework content = .testng ↔
    containsAny ["org.testng"] content = true ∧
      containsAny ["org.junit.jupiter"] content = false := by
  rw [framework]
  by_cases hjupiter : containsAny ["org.junit.jupiter"] content = true
  · rw [if_pos hjupiter, hjupiter]
    exact iff_of_false nofun fun h => nomatch h.2
  · rw [if_neg hjupiter]
    by_cases htestng : containsAny ["org.testng"] content = true
    · rw [if_pos htestng]
      exact iff_of_true rfl ⟨htestng, Bool.eq_false_iff.mpr hjupiter⟩
    · rw [if_neg htestng]
      refine iff_of_false ?_ fun h => htestng h.1
      split
      · exact nofun
      · split <;> exact nofun

/-- Under another framework the same assertions are read, some with their sides exchanged. -/
theorem assertions_eq_map (before after : Framework) (body : List Char) (first : Nat) :
    assertions after body first = (assertions before body first).map fun a =>
      if Turned before after a then exchanged a else a := by
  rw [assertions, assertions, List.map_map]
  refine List.map_congr_left fun a _ => ?_
  rw [Function.comp_apply]
  by_cases hr : containsAny ["assertEquals", "assertNotEquals"] a.raw.toList = true
  · by_cases hb : before = .testng <;> by_cases ha : after = .testng <;>
      simp [Turned, Reversible, exchanged, hr, hb, ha]
  · simp [Turned, Reversible, hr]

/-- The sides of equality assertions that are taken for the expected ones, with their lines. -/
def equalitiesBy (side : Assertion → Option String) (assertions : List Assertion) :
    List (Nat × Option (List Char)) :=
  (assertions.filter fun a => a.kind = .equals).map fun a => (a.line, (side a).map String.toList)

/-- What is read of a test of a file. -/
private theorem mem_tests {file : Path} {content : List Char} {t : TestCase}
    (h : t ∈ (dialect.read file content).tests) :
    t.assertions = assertions t.framework t.body.toList t.line := by
  obtain ⟨located, hlocated, rfl⟩ := List.mem_map.mp h
  obtain ⟨place, _, hspan⟩ := List.mem_filterMap.mp hlocated
  obtain ⟨span, _, rfl⟩ := Option.map_eq_some_iff.mp hspan
  simp only [Dialect.testCase, List.nil_append, String.toList_ofList]
  rfl

end Reader.Java

namespace Outline

open Reader

variable {file : Path} {content : List Char} {t : TestCase}

/-- The expected sides of the outline of a body, with their lines. -/
def outlined (body : List Char) (first : Nat) : List (Nat × Option (List Char)) :=
  (ByLine.outline .java body first).assertions.map fun a => (a.line, a.expected)

/-- What a body is outlined to expect, by its assertions as they are read under any framework. -/
private theorem outlined_eq (body : List Char) (first : Nat) (before : Framework) :
    outlined body first =
      Java.equalitiesBy
        (fun a => if Java.Turned before (ByLine.frameworkOf .java body) a then a.actual
          else a.expected)
        (Java.assertions before body first) := by
  have hdialect : Language.java.dialect.assertions = Java.assertions := rfl
  rw [outlined, assertions_outline, ByLine.assertions, hdialect, Java.assertions_eq_map before,
    Java.equalitiesBy]
  induction Java.assertions before body first with
  | nil => rfl
  | cons a rest ih =>
    by_cases hkind : a.kind = .equals
    · by_cases hturned : Java.Turned before (ByLine.frameworkOf .java body) a
      · simpa [hkind, hturned, Java.exchanged] using ih
      · simpa [hkind, hturned] using ih
    · by_cases hturned : Java.Turned before (ByLine.frameworkOf .java body) a
      · simpa [hkind, hturned, Java.exchanged] using ih
      · simpa [hkind, hturned] using ih

/-- Where file and body agree on TestNG, the outline of the body expects what the test expects. -/
private theorem expectations_eq_of_agree (ht : t ∈ (Java.dialect.read file content).tests)
    (h : t.framework = .testng ↔ Java.framework t.body.toList = .testng) :
    outlined t.body.toList t.line = Java.equalitiesBy (·.expected) t.assertions := by
  have hbody : ByLine.frameworkOf .java t.body.toList = .testng ↔
      Java.framework t.body.toList = .testng := by
    have hdialect : Language.java.dialect.framework t.body.toList =
        Java.framework t.body.toList := rfl
    rw [ByLine.frameworkOf, hdialect]
    cases Java.framework t.body.toList <;> simp [ByLine.usualFramework]
  have hsame (a : Adjudicator.Assertion) :
      ¬Java.Turned t.framework (ByLine.frameworkOf .java t.body.toList) a :=
    fun hturned => hturned.1 (h.trans hbody.symm)
  rw [Java.mem_tests ht, outlined_eq _ _ t.framework]
  simp only [hsame, if_false]

/-- The outline of a test's body has the equality assertions of the test on their lines; the
expected side is the test's, or its actual side where the frameworks of file and body differ on
TestNG. Where they agree on it, the outline expects what the test expects. -/
theorem expectations_of_mem_tests (ht : t ∈ (Java.dialect.read file content).tests) :
    outlined t.body.toList t.line =
      Java.equalitiesBy
        (fun a => if Java.Turned t.framework (ByLine.frameworkOf .java t.body.toList) a then
          a.actual else a.expected)
        t.assertions ∧
    ((t.framework = .testng ↔ Java.framework t.body.toList = .testng) →
      outlined t.body.toList t.line = Java.equalitiesBy (·.expected) t.assertions) := by
  refine ⟨?_, expectations_eq_of_agree ht⟩
  rw [Java.mem_tests ht]
  exact outlined_eq _ _ _

/-- A file whose import points to TestNG; its test does not. -/
def importing : List Char :=
  "import org.testng.*;
class CalcTest \x7b
  @Test
  void nine() \x7b
    assertEquals(f(), 9);
  \x7d
\x7d
".toList

/-- The test of the file, as it is read. -/
def imported : TestCase :=
  { name := "nine"
    file := "CalcTest.java"
    line := 4
    endLine := 6
    framework := .testng
    assertions := [⟨.equals, some "9", some "f()", 5, "assertEquals(f(), 9);"⟩]
    body := "  void nine() \x7b
    assertEquals(f(), 9);
  \x7d" }

private theorem imported_facts :
    (Java.dialect.read "CalcTest.java" importing).tests = [imported] ∧
      outlined imported.body.toList imported.line ≠
        Java.equalitiesBy (·.expected) imported.assertions := by
  unfold importing imported
  simp only [String.reduceToList]
  decide +kernel

private theorem imported_mem : imported ∈ (Java.dialect.read "CalcTest.java" importing).tests := by
  rw [imported_facts.1]
  exact List.mem_singleton_self _

/-- The test that takes its framework from an import. -/
theorem expectations_of_import :
    imported ∈ (Java.dialect.read "CalcTest.java" importing).tests ∧
      outlined imported.body.toList imported.line =
        Java.equalitiesBy
          (fun a => if Java.Turned .testng (ByLine.frameworkOf .java imported.body.toList) a then
            a.actual else a.expected)
          imported.assertions :=
  ⟨imported_mem, (expectations_of_mem_tests imported_mem).1⟩

/-- The outline of a body does not always expect what the test expects. -/
theorem expectations_differ :
    ¬∀ (file : Path) (content : List Char), ∀ t ∈ (Java.dialect.read file content).tests,
      outlined t.body.toList t.line = Java.equalitiesBy (·.expected) t.assertions :=
  fun h => imported_facts.2 (h "CalcTest.java" importing imported imported_mem)

end Outline

end Adjudicator
