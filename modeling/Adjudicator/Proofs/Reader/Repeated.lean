import Adjudicator.Proofs.Code.Span
import Adjudicator.Proofs.Pairing.Choice
import Adjudicator.Reader.Source
import Mathlib.Data.List.Pairwise

/-!
# Tests reported more than once

A reader that looks for tests on their own lines reports each line once, and so does one that keeps
the lines it has seen. A reader that looks below every attribute comes to a declaration as often as
attributes lead to it. Main statement: no two tests of a text begin on one line exactly when the
text is not in a language of the last kind with two attributes stacked on one declaration.
-/

namespace Adjudicator.Reader

open Text Code Pattern

/-- No two tests begin on one line. -/
def Apart (tests : List Located) : Prop :=
  tests.Pairwise fun t u => t.span.first ≠ u.span.first

/-! ## Tests on lines of their own -/

/-- Tests that are found on their own lines are apart. -/
theorem apart_of_first (code : List (List Char)) (testAt? : List Char → Nat → Option Located)
    (hfirst : ∀ line i t, testAt? line i = some t → t.span.first = i + 1) :
    Apart (code.zipIdx.filterMap fun p => testAt? p.1 p.2) := by
  refine (pairwise_zipIdx code).filterMap _ ?_
  intro p q hlt t ht u hu
  rw [hfirst _ _ _ ht, hfirst _ _ _ hu]
  omega

/-! ## Tests below attributes -/

/-- How a reader comes from a line with a test attribute to the declaration below it. -/
structure Descent where
  /-- A line with a test attribute. -/
  mark : Pattern
  /-- Whether a line below the attribute is passed over. -/
  passes : List Char → Bool
  /-- Whether a test begins on a line that is not passed over. -/
  declares : List Char → Bool
  /-- How many lines below the attribute are looked at. -/
  reach : Nat

namespace Descent

variable {d : Descent} {code : List (List Char)} {i j k : Nat}

/-- A line has a test attribute. -/
def Marked (d : Descent) (code : List (List Char)) (i : Nat) : Prop :=
  ∃ line, code[i]? = some line ∧ d.mark.found line = true

/-- From line `i` the way down passes all lines up to the declaration on line `k`. -/
structure LeadsTo (d : Descent) (code : List (List Char)) (i k : Nat) : Prop where
  /-- The way leads down. -/
  lt : i < k
  /-- The declaration is within reach. -/
  le : k ≤ i + d.reach
  /-- The way ends on a line that declares a test. -/
  declared : ∃ line, code[k]? = some line ∧ d.passes line = false ∧ d.declares line = true
  /-- The lines on the way are passed over. -/
  passed : ∀ j line, i < j → j < k → code[j]? = some line → d.passes line = true

/-- Two test attributes are stacked on one declaration that has a body. -/
def Stacked (d : Descent) (code : List (List Char)) : Prop :=
  ∃ i j k, i < j ∧ j < k ∧ d.Marked code i ∧ d.Marked code j ∧ d.LeadsTo code i k ∧
    (braceBody? code k 5).isSome = true

/-- An attribute on the way leads to the same declaration. -/
theorem LeadsTo.of_lt (h : d.LeadsTo code i k) (hle : i ≤ j) (hlt : j < k) :
    d.LeadsTo code j k where
  lt := hlt
  le := Nat.le_trans h.le (Nat.add_le_add_right hle d.reach)
  declared := h.declared
  passed := fun m line hm => h.passed m line (Nat.lt_of_le_of_lt hle hm)

/-- The line of the declaration among some lines below an attribute. -/
def among? (d : Descent) (below : List (List Char × Nat)) : Option Nat :=
  (below.find? fun p => !d.passes p.1).bind fun p => if d.declares p.1 then some p.2 else none

/-- A line that is passed over is not the declaration. -/
theorem among?_cons_of_passes {line : List Char} (h : d.passes line = true)
    (below : List (List Char × Nat)) : d.among? ((line, i) :: below) = d.among? below := by
  rw [among?, List.find?_cons_of_neg (by rw [h]; exact Bool.false_ne_true)]
  rfl

/-- On another line the way down ends, with a declaration or without one. -/
theorem among?_cons_of_not_passes {line : List Char} (h : d.passes line = false)
    (below : List (List Char × Nat)) :
    d.among? ((line, i) :: below) = if d.declares line then some i else none := by
  rw [among?, List.find?_cons_of_pos (by rw [h]; rfl)]
  rfl

/-- The line of the declaration below an attribute on line `i`. -/
def place? (d : Descent) (code : List (List Char)) (i : Nat) : Option Nat :=
  d.among? ((code.zipIdx.drop (i + 1)).take d.reach)

/-- The line of the declaration is where the way down leads to. -/
theorem place?_eq_some_iff : d.place? code i = some k ↔ d.LeadsTo code i k := by
  have hget (m : Nat) (hm : m < ((code.zipIdx.drop (i + 1)).take d.reach).length) :
      code[i + 1 + m]? = some ((code.zipIdx.drop (i + 1)).take d.reach)[m].1 ∧
        ((code.zipIdx.drop (i + 1)).take d.reach)[m].2 = i + 1 + m := by
    rw [List.getElem_take, List.getElem_drop, List.getElem_zipIdx]
    exact ⟨List.getElem?_eq_getElem _, Nat.zero_add _⟩
  constructor
  · intro h
    obtain ⟨p, hfind, hdeclares⟩ := Option.bind_eq_some_iff.mp h
    obtain ⟨hpass, m, hm, rfl, hbefore⟩ := List.find?_eq_some_iff_getElem.mp hfind
    obtain ⟨hline, hindex⟩ := hget m hm
    split at hdeclares
    next hdeclares' =>
      rw [Option.some.injEq, hindex] at hdeclares
      subst hdeclares
      have hlength := List.length_take_le d.reach (code.zipIdx.drop (i + 1))
      refine ⟨by omega, by omega, ⟨_, hline, by simpa using hpass, hdeclares'⟩, ?_⟩
      intro j line hi hj hline'
      obtain ⟨n, rfl⟩ : ∃ n, j = i + 1 + n := ⟨j - (i + 1), by omega⟩
      have hn : n < m := by omega
      obtain ⟨hline'', _⟩ := hget n (by omega)
      obtain rfl := Option.some.inj (hline''.symm.trans hline')
      simpa using hbefore n hn
    next => cases hdeclares
  · rintro ⟨hlt, hle, ⟨line, hline, hpass, hdeclares⟩, hpassed⟩
    obtain ⟨m, rfl⟩ : ∃ m, k = i + 1 + m := ⟨k - (i + 1), by omega⟩
    obtain ⟨hbound, -⟩ := List.getElem?_eq_some_iff.mp hline
    have hm : m < ((code.zipIdx.drop (i + 1)).take d.reach).length := by
      rw [List.length_take, List.length_drop, List.length_zipIdx]
      omega
    obtain ⟨hline', hindex⟩ := hget m hm
    have hfst := Option.some.inj (hline'.symm.trans hline)
    refine Option.bind_eq_some_iff.mpr ⟨_, List.find?_eq_some_iff_getElem.mpr
      ⟨?_, m, hm, rfl, ?_⟩, ?_⟩
    · rw [hfst, hpass]
      rfl
    · intro n hn
      obtain ⟨hline', _⟩ := hget n (by omega)
      simpa using hpassed _ _ (by omega) (by omega) hline'
    · rw [hfst, hdeclares, hindex]
      rfl

section Tests

variable {testAt? : List Char → Nat → Option Located} {line : List Char} {span : Span}

/-- The test of an attribute has the body of the declaration that the way down leads to. -/
theorem exists_span_iff
    (htests : ∀ line i, (testAt? line i).map (·.span) =
      if d.mark.found line then (d.place? code i).bind (braceBody? code · 5) else none) :
    (∃ t, testAt? line i = some t ∧ t.span = span) ↔
      d.mark.found line = true ∧ ∃ k, d.LeadsTo code i k ∧ braceBody? code k 5 = some span := by
  rw [← Option.map_eq_some_iff, htests]
  by_cases hmark : d.mark.found line = true
  · rw [if_pos hmark, Option.bind_eq_some_iff, and_iff_right hmark]
    simp only [place?_eq_some_iff]
  · rw [if_neg hmark]
    exact iff_of_false nofun fun h => hmark h.1

/-- Tests found on the way down from their attributes are apart exactly when no attributes are
stacked. -/
theorem apart_iff
    (htests : ∀ line i, (testAt? line i).map (·.span) =
      if d.mark.found line then (d.place? code i).bind (braceBody? code · 5) else none) :
    Apart (code.zipIdx.filterMap fun p => testAt? p.1 p.2) ↔ ¬d.Stacked code := by
  rw [Apart, List.pairwise_filterMap, List.pairwise_iff_getElem]
  constructor
  · rintro hapart ⟨i, j, k, hlt, hbelow, ⟨line, hi, hmark⟩, ⟨line', hj, hmark'⟩, hleads, hbody⟩
    obtain ⟨span, hbody⟩ := Option.isSome_iff_exists.mp hbody
    have hleads' : d.LeadsTo code j k := hleads.of_lt (Nat.le_of_lt hlt) hbelow
    obtain ⟨t, ht, htspan⟩ := (exists_span_iff htests).mpr ⟨hmark, k, hleads, hbody⟩
    obtain ⟨u, hu, huspan⟩ := (exists_span_iff htests).mpr ⟨hmark', k, hleads', hbody⟩
    obtain ⟨hlti, rfl⟩ := List.getElem?_eq_some_iff.mp hi
    obtain ⟨hltj, rfl⟩ := List.getElem?_eq_some_iff.mp hj
    have hi : i < code.zipIdx.length := List.length_zipIdx.symm ▸ hlti
    have hj : j < code.zipIdx.length := List.length_zipIdx.symm ▸ hltj
    refine hapart i j hi hj hlt t ?_ u ?_ (by rw [htspan, huspan])
    · rw [List.getElem_zipIdx, Nat.zero_add]
      exact ht
    · rw [List.getElem_zipIdx, Nat.zero_add]
      exact hu
  · intro hstacked i j hi hj hlt t ht u hu hfirst
    rw [List.getElem_zipIdx, Nat.zero_add] at ht hu
    rw [List.length_zipIdx] at hi hj
    obtain ⟨hmark, k, hk, hbody⟩ := (exists_span_iff htests).mp ⟨t, ht, rfl⟩
    obtain ⟨hmark', k', hk', hbody'⟩ := (exists_span_iff htests).mp ⟨u, hu, rfl⟩
    obtain rfl : k = k' := by
      rw [first_of_braceBody? hbody, first_of_braceBody? hbody'] at hfirst
      exact Nat.succ_inj.mp hfirst
    exact hstacked ⟨i, j, k, hlt, hk'.lt, ⟨_, List.getElem?_eq_getElem hi, hmark⟩,
      ⟨_, List.getElem?_eq_getElem hj, hmark'⟩, hk, Option.isSome_iff_exists.mpr ⟨_, hbody⟩⟩

end Tests

end Descent

/-! ## The readers -/

/-- The first places of different indices. -/
theorem Csharp.pairwise_firstPlaces (places : List (Nat × List Char)) :
    (firstPlaces places).Pairwise fun p q => p.1 ≠ q.1 := by
  have key (kept : List (Nat × List Char)) (h : kept.Pairwise fun p q => p.1 ≠ q.1) :
      (places.foldl (fun kept p => if kept.any (·.1 == p.1) then kept else kept ++ [p])
        kept).Pairwise fun p q => p.1 ≠ q.1 := by
    induction places generalizing kept with
    | nil => exact h
    | cons place places ih =>
      rw [List.foldl_cons]
      split
      next => exact ih kept h
      next hnew =>
        refine ih _ (List.pairwise_append.mpr ⟨h, List.pairwise_singleton .., ?_⟩)
        intro p hp q hq heq
        obtain rfl := List.mem_singleton.mp hq
        exact hnew (List.any_eq_true.mpr ⟨p, hp, beq_iff_eq.mpr heq⟩)
  exact key [] List.Pairwise.nil

/-- The reader of C# keeps the declarations that it has seen. -/
theorem Csharp.apart_tests (code : List (List Char)) : Apart (tests code) := by
  refine (pairwise_firstPlaces _).filterMap _ ?_
  intro p q hne t ht u hu
  obtain ⟨span, hspan, rfl⟩ := Option.map_eq_some_iff.mp ht
  obtain ⟨span', hspan', rfl⟩ := Option.map_eq_some_iff.mp hu
  simp only [first_of_braceBody? hspan, first_of_braceBody? hspan', ne_eq, Nat.succ_inj]
  exact hne

/-- The reader of Go looks for a test on each line. -/
theorem Go.apart_tests (code : List (List Char)) : Apart (tests code) := by
  refine apart_of_first code (fun line i => (testStart.find? line).bind fun m =>
    (braceBody? code i 3).map fun span => { name := m.group 1, span }) ?_
  intro line i t ht
  obtain ⟨m, _, ht⟩ := Option.bind_eq_some_iff.mp ht
  obtain ⟨span, hspan, rfl⟩ := Option.map_eq_some_iff.mp ht
  exact first_of_braceBody? hspan

/-- The reader of Python looks for a test on each line. -/
theorem Python.apart_tests (code : List (List Char)) : Apart (tests code) := by
  refine apart_of_first code (fun line i => (functionName? line).bind fun name =>
    if "test".toList.isPrefixOf name then
      (indentBody? code i).map fun span => { name, span }
    else none) ?_
  intro line i t ht
  obtain ⟨name, _, ht⟩ := Option.bind_eq_some_iff.mp ht
  split at ht
  · obtain ⟨span, hspan, rfl⟩ := Option.map_eq_some_iff.mp ht
    exact first_of_indentBody? hspan
  · cases ht

/-- The reader of scripts looks for a test on each line. -/
theorem Script.apart_tests (code : List (List Char)) : Apart (tests code) := by
  refine apart_of_first code (fun line i => (testCall.find? line).map fun m =>
    { name := m.group 2, span := (braceBody? code i 3).getD (lineSpan i line) }) ?_
  intro line i t ht
  obtain ⟨m, _, rfl⟩ := Option.map_eq_some_iff.mp ht
  cases hspan : braceBody? code i 3 with
  | none => rfl
  | some span => exact first_of_braceBody? hspan

namespace Java

/-- The way from a test annotation to the first method below that is no annotation. -/
def descent : Descent where
  mark := testAnnotation
  passes line := (trimStart line).head? == some '@' || !methodStart.found line
  declares _ := true
  reach := 8

/-- Below an annotation of Java further annotations are passed over, and all lines on which no
method begins. -/
theorem passes_descent (line : List Char) : descent.passes line =
    ((trimStart line).head? == some '@' || !methodStart.found line) :=
  rfl

/-- An annotation belongs to the declaration that the way down leads to. -/
theorem map_testBelow? (code : List (List Char)) (i : Nat) :
    (testBelow? code i).map (·.1) = descent.place? code i := by
  rw [testBelow?, Descent.place?, show descent.reach = 8 from rfl]
  induction (code.zipIdx.drop (i + 1)).take 8 with
  | nil => rfl
  | cons p below ih =>
    obtain ⟨line, k⟩ := p
    rw [List.findSome?_cons]
    by_cases hat : (trimStart line).head? = some '@'
    · have hpasses : descent.passes line = true :=
        Bool.or_eq_true_iff.mpr (.inl (beq_iff_eq.mpr hat))
      rw [Descent.among?_cons_of_passes hpasses]
      simp only [if_pos hat]
      exact ih
    · have hpasses : descent.passes line = !methodStart.found line := by
        rw [passes_descent, beq_false_of_ne hat, Bool.false_or]
      simp only [if_neg hat]
      cases hm : methodStart.find? line with
      | some m =>
        rw [found, hm] at hpasses
        rw [Descent.among?_cons_of_not_passes hpasses]
        rfl
      | none =>
        rw [found, hm] at hpasses
        rw [Descent.among?_cons_of_passes hpasses]
        exact ih

/-- The test of an annotation on line `i`. -/
def testAt? (code : List (List Char)) (line : List Char) (i : Nat) : Option Located :=
  if testAnnotation.found line then
    (testBelow? code i).bind fun (k, name) =>
      (braceBody? code k 5).map fun span => { name, span }
  else none

/-- The test of an annotation has the body of the declaration below it. -/
theorem map_span_testAt? (code : List (List Char)) (line : List Char) (i : Nat) :
    (testAt? code line i).map (·.span) =
      if testAnnotation.found line then (descent.place? code i).bind (braceBody? code · 5)
      else none := by
  rw [testAt?, ← map_testBelow?]
  split
  · cases testBelow? code i with
    | none => rfl
    | some found =>
      obtain ⟨k, name⟩ := found
      change ((braceBody? code k 5).map _).map _ = braceBody? code k 5
      rw [Option.map_map]
      exact Option.map_id'
  · rfl

/-- The reader of Java reports a test for each annotation that leads to one. -/
theorem apart_tests_iff (code : List (List Char)) :
    Apart (tests code) ↔ ¬descent.Stacked code := by
  by_cases hany : code.any testAnnotation.found = true
  · have htests : tests code = code.zipIdx.filterMap fun p => testAt? code p.1 p.2 := by
      rw [tests, testStarts, if_pos hany, List.filterMap_filterMap]
      refine List.filterMap_congr ?_
      rintro ⟨line, i⟩ _
      by_cases hmark : testAnnotation.found line = true
      · simp only [testAt?, if_pos hmark]
      · simp only [testAt?, if_neg hmark, Option.bind_none]
    rw [htests]
    exact Descent.apart_iff (d := descent) (map_span_testAt? code)
  · refine iff_of_true ?_ ?_
    · rw [tests, testStarts, if_neg hany, List.filterMap_filterMap]
      refine apart_of_first code (fun line i =>
        ((namedTest.find? line).map fun m => (i, m.group 1)).bind fun (i, name) =>
          (braceBody? code i 5).map fun span => { name, span }) ?_
      intro line i t ht
      obtain ⟨⟨k, name⟩, hname, hbody⟩ := Option.bind_eq_some_iff.mp ht
      obtain ⟨m, _, hname⟩ := Option.map_eq_some_iff.mp hname
      obtain ⟨rfl, -⟩ := Prod.mk.inj hname
      obtain ⟨span, hspan, rfl⟩ := Option.map_eq_some_iff.mp hbody
      exact first_of_braceBody? hspan
    · rintro ⟨i, _, _, _, _, ⟨line, hi, hmark⟩, _⟩
      exact hany (List.any_eq_true.mpr ⟨line, List.mem_of_getElem? hi, hmark⟩)

end Java

namespace Rust

/-- The way from a test attribute to a function, past attributes and blank lines. -/
def descent : Descent where
  mark := testAttribute
  passes line := panicAttribute.found line || "#[".toList.isPrefixOf (trimStart line) || blank line
  declares := functionStart.found
  reach := 6

/-- Below an attribute of Rust further attributes are passed over, and blank lines. -/
theorem passes_descent (line : List Char) : descent.passes line =
    (panicAttribute.found line || "#[".toList.isPrefixOf (trimStart line) || blank line) :=
  rfl

/-- The way down does not depend on the panic that is expected of the function. -/
theorem map_functionAmong? (panic : Option (List Char × List Char))
    (below : List (List Char × Nat)) :
    (functionAmong? panic below).map (·.1) = descent.among? below := by
  induction below generalizing panic with
  | nil => rfl
  | cons p below ih =>
    obtain ⟨line, k⟩ := p
    rw [functionAmong?]
    cases hpanic : panicAttribute.find? line with
    | some m =>
      have hpasses : descent.passes line = true := by
        rw [passes_descent, found, hpanic]
        rfl
      rw [Descent.among?_cons_of_passes hpasses]
      exact ih _
    | none =>
      have hpasses : descent.passes line =
          ("#[".toList.isPrefixOf (trimStart line) || blank line) := by
        rw [passes_descent, found, hpanic]
        rfl
      simp only []
      split
      next h =>
        rw [Descent.among?_cons_of_passes (hpasses.trans h)]
        exact ih panic
      next h =>
        rw [Descent.among?_cons_of_not_passes (hpasses.trans (Bool.eq_false_of_not_eq_true h)),
          show descent.declares line = (functionStart.find? line).isSome from rfl]
        cases functionStart.find? line <;> rfl

/-- The test of an attribute on line `i`. -/
def testAt? (code : List (List Char)) (line : List Char) (i : Nat) : Option Located :=
  if testAttribute.found line then testBelow? code i else none

/-- The test of an attribute has the body of the declaration below it. -/
theorem map_span_testAt? (code : List (List Char)) (line : List Char) (i : Nat) :
    (testAt? code line i).map (·.span) =
      if testAttribute.found line then (descent.place? code i).bind (braceBody? code · 5)
      else none := by
  rw [testAt?, Descent.place?, ← map_functionAmong? none, show descent.reach = 6 from rfl]
  split
  · rw [testBelow?]
    cases functionAmong? none ((code.zipIdx.drop (i + 1)).take 6) with
    | none => rfl
    | some found =>
      obtain ⟨k, name, panic⟩ := found
      change ((braceBody? code k 5).bind _).map _ = braceBody? code k 5
      cases braceBody? code k 5 <;> rfl
  · rfl

/-- The reader of Rust reports a test for each attribute that leads to one. -/
theorem apart_tests_iff (code : List (List Char)) :
    Apart (tests code) ↔ ¬descent.Stacked code :=
  Descent.apart_iff (d := descent) (map_span_testAt? code)

end Rust

/-- Two test attributes of a text are stacked on one declaration. -/
def Stacked : Language → List (List Char) → Prop
  | .java, code => Java.descent.Stacked code
  | .rust, code => Rust.descent.Stacked code
  | _, _ => False

/-- The tests that a reader locates are apart unless it looks below each of some stacked
attributes. -/
theorem apart_tests_iff (language : Language) (code : List (List Char)) :
    Apart (language.dialect.tests code) ↔ ¬Stacked language code := by
  cases language with
  | java => exact Java.apart_tests_iff code
  | rust => exact Rust.apart_tests_iff code
  | typescript => exact iff_of_true (Script.apart_tests code) id
  | javascript => exact iff_of_true (Script.apart_tests code) id
  | python => exact iff_of_true (Python.apart_tests code) id
  | go => exact iff_of_true (Go.apart_tests code) id
  | csharp => exact iff_of_true (Csharp.apart_tests code) id

end Adjudicator.Reader

namespace Adjudicator

open Text

/-- Pairs are of tests on lines of their own when the tests are. -/
theorem Pairing.pairwise_pairs {tests : List TestCase}
    (h : tests.Pairwise fun t u => t.line ≠ u.line) (methods : List Method) :
    (pairs tests methods).Pairwise fun p q => p.test.line ≠ q.test.line := by
  refine h.filterMap (pairOf? methods) ?_
  intro t u hne p hp q hq
  obtain ⟨_, _, _, _, rfl⟩ := pairOf?_eq_some_iff.mp hp
  obtain ⟨_, _, _, _, rfl⟩ := pairOf?_eq_some_iff.mp hq
  exact hne

/-- No two tests of a text begin on one line, and no two pairs of them with any methods, exactly
when no two test attributes are stacked on a declaration that the reader looks for below each. -/
theorem tests_apart_iff_not_stacked (file : Path) (content : List Char) :
    ((Declarations.ofSource file content).tests.Pairwise (fun t u => t.line ≠ u.line) ∧
      ∀ methods, (Pairing.pairs (Declarations.ofSource file content).tests methods).Pairwise
        fun p q => p.test.line ≠ q.test.line) ↔
    ¬∃ language, Language.ofPath? file = some language ∧
      Reader.Stacked language (lines content) := by
  rw [and_iff_left_of_imp fun h methods => Pairing.pairwise_pairs h methods]
  unfold Declarations.ofSource
  cases Language.ofPath? file with
  | none => exact iff_of_true List.Pairwise.nil (by rintro ⟨_, h, _⟩; cases h)
  | some language =>
    simp only [Option.some.injEq, exists_eq_left']
    rw [← Reader.apart_tests_iff language, Reader.Apart, Reader.Dialect.read, List.pairwise_map]
    rfl

/-- A test with two attributes is reported twice. -/
theorem stacked_attributes_repeat_tests :
    ¬(∀ content, (Declarations.ofSource "cart.rs" content).tests.Pairwise
      fun t u => t.line ≠ u.line) ∧
    ¬∀ content, (Declarations.ofSource "CartTest.java" content).tests.Pairwise
      fun t u => t.line ≠ u.line := by
  have key {tests : List TestCase} {n : Nat} (hlines : tests.map (·.line) = [n, n]) :
      ¬tests.Pairwise fun t u => t.line ≠ u.line := by
    intro h
    have hne := List.pairwise_map.mpr h
    rw [hlines, List.pairwise_pair] at hne
    exact hne rfl
  constructor
  · intro h
    refine key (n := 3) ?_
      (h "#[test_case(1)]\n#[test_case(2)]\nfn total(n: i32) \x7b\n\x7d".toList)
    decide
  · intro h
    refine key (n := 4) ?_
      (h "class CartTest \x7b\n@Test\n@RepeatedTest(3)\nvoid total() \x7b\n\x7d\n\x7d".toList)
    decide

end Adjudicator
