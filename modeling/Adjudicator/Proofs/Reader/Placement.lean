import Adjudicator.Proofs.Code.Span
import Adjudicator.Reader.Source

/-!
# Places of declarations

A reader places a declaration on lines of its text, and the assertions of a test on lines of the
test. Main statement: every reader does, so the numbers of lines that a text's declarations come
with are those of lines that it has, and their bodies are these lines. No line declares a test and a
method at once.
-/

namespace Adjudicator.Reader

open Text Code

/-- A reader that takes tests, methods and assertions from lines of the text. -/
structure Dialect.Placed (d : Dialect) : Prop where
  /-- A test lies within the text, and what stands outside its body is placed on its first line. -/
  tests : ∀ code t, t ∈ d.tests code →
    t.span.Within code ∧ ∀ a ∈ t.leading, a.line = t.span.first
  /-- A method lies within the text. -/
  methods : ∀ file code m, m ∈ d.methods file code → ∃ span : Span, span.Within code ∧
    m.line = span.first ∧ m.endLine = span.last ∧ m.body = String.ofList span.text
  /-- An assertion is on a line of the body. -/
  assertions : ∀ framework body first a, a ∈ d.assertions framework body first →
    first ≤ a.line ∧ a.line < first + (lines body).length

/-! ## Common parts of readers -/

/-- One line of a text lies within the text. -/
theorem within_lineSpan {code : List (List Char)} {i : Nat} {line : List Char}
    (h : (line, i) ∈ code.zipIdx) : (lineSpan i line).Within code := by
  obtain ⟨hi, hline⟩ : ∃ hi : i < code.length, code[i] = line :=
    List.getElem?_eq_some_iff.mp (List.mem_zipIdx_iff_getElem?.mp h)
  refine ⟨i, i, Nat.le_refl i, hi, ?_⟩
  have hone : (code.drop i).take (i + 1 - i) = [line] := by
    rw [Nat.add_sub_cancel_left, List.drop_eq_getElem_cons hi, List.take_succ_cons, List.take_zero,
      hline]
  rw [Span.ofLines, hone, joinLines, joinWith, List.intercalate_singleton]
  rfl

/-- Idioms are looked for on the lines of the body. -/
theorem line_of_mem_scanAssertions {table : List Idiom} {body : List Char} {first : Nat}
    {a : Assertion} (h : a ∈ scanAssertions table body first) :
    first ≤ a.line ∧ a.line < first + (lines body).length := by
  obtain ⟨⟨line, number⟩, hline, ha⟩ := List.mem_flatMap.mp h
  have hnumber : a.line = number := by
    simp only [] at ha
    split at ha
    · cases ha
    · obtain ⟨idiom, _, hread⟩ := List.mem_filterMap.mp ha
      unfold Idiom.read? at hread
      split at hread
      · cases hread
      · obtain ⟨m, _, rfl⟩ := Option.map_eq_some_iff.mp hread
        rfl
  obtain ⟨hfirst, hlast, _⟩ := List.mem_zipIdx hline
  rw [hnumber]
  exact ⟨hfirst, hlast⟩

/-- A method is read from a span that begins on its line: the body in braces, where one opens within
some lines, or else the line alone. -/
structure ReadFrom (code : List (List Char)) (lookahead i : Nat) (line : List Char) (span : Span)
    (m : Method) : Prop where
  /-- The body in braces comes before the line alone. -/
  body : braceBody? code i lookahead = some span ∨
    braceBody? code i lookahead = none ∧ span = lineSpan i line
  /-- The method begins with the span. -/
  line_eq : m.line = span.first
  /-- The method ends with the span. -/
  endLine_eq : m.endLine = span.last
  /-- The method's text is the span's. -/
  body_eq : m.body = String.ofList span.text

namespace ReadFrom

variable {code : List (List Char)} {lookahead i : Nat} {line : List Char} {span : Span} {m : Method}

/-- The method begins on the line that is read. -/
theorem line_eq_succ (h : ReadFrom code lookahead i line span m) : m.line = i + 1 := by
  rw [h.line_eq]
  rcases h.body with hspan | ⟨_, rfl⟩
  · exact first_of_braceBody? hspan
  · rfl

/-- The method lies within the text. -/
theorem within (h : ReadFrom code lookahead i line span m) (hline : (line, i) ∈ code.zipIdx) :
    span.Within code := by
  rcases h.body with hspan | ⟨_, rfl⟩
  · exact within_of_braceBody? hspan
  · exact within_lineSpan hline

end ReadFrom

/-- A declaration that is made from the body in braces, or else from the line alone. -/
private theorem exists_span_of_body {code : List (List Char)} {i lookahead : Nat}
    {line : List Char} {short : Prop} [Decidable short] {declare : Span → Option Method}
    {m : Method}
    (h : (match braceBody? code i lookahead with
      | some span => some span >>= declare
      | none => if short then some (lineSpan i line) >>= declare else none >>= declare) = some m) :
    ∃ span : Span, (braceBody? code i lookahead = some span ∨
      braceBody? code i lookahead = none ∧ span = lineSpan i line) ∧ declare span = some m := by
  cases hspan : braceBody? code i lookahead with
  | some span =>
    rw [hspan] at h
    exact ⟨span, .inl rfl, h⟩
  | none =>
    simp only [hspan] at h
    split at h
    · exact ⟨lineSpan i line, .inr ⟨rfl, rfl⟩, h⟩
    · cases h

/-! ## Methods on their lines

Each reader decides line by line. What it takes a method from is said once here, so that a change of
a reader changes one of these lemmas. -/

section Methods

variable {file : Path} {code : List (List Char)} {i : Nat} {line : List Char} {m : Method}

/-- A method of Go is read from its line. -/
theorem Go.exists_readFrom (h : Go.methodAt? file code i line = some m) :
    ∃ span, ReadFrom code 5 i line span m := by
  simp only [Go.methodAt?] at h
  split at h
  · cases h
  obtain ⟨found, _, h⟩ := Option.bind_eq_some_iff.mp h
  split at h
  · cases h
  obtain ⟨span, hspan, h⟩ := Option.bind_eq_some_iff.mp h
  obtain rfl := Option.some.inj h
  exact ⟨span, .inl hspan, rfl, rfl, rfl⟩

/-- A method of Java is read from its line, and its owner from the lines above. -/
theorem Java.exists_readFrom (h : Java.methodAt? file code i line = some m) :
    ∃ span, ReadFrom code 5 i line span m ∧ m.owner = Java.ownerAbove code i := by
  simp only [Java.methodAt?] at h
  split at h
  · cases h
  obtain ⟨found, _, h⟩ := Option.bind_eq_some_iff.mp h
  split at h
  · cases h
  obtain ⟨span, hspan, h⟩ := Option.bind_eq_some_iff.mp h
  obtain rfl := Option.some.inj h
  exact ⟨span, ⟨.inl hspan, rfl, rfl, rfl⟩, rfl⟩

/-- A method of C# is read from its line, and its owner from the types around it. -/
theorem Csharp.exists_readFrom {types : List (Span × List Char)}
    (h : Csharp.methodAt? file code types i line = some m) :
    ∃ span, ReadFrom code 5 i line span m ∧ m.owner = ownerAt types i := by
  simp only [Csharp.methodAt?] at h
  split at h
  · cases h
  obtain ⟨⟨result, name⟩, _, h⟩ := Option.bind_eq_some_iff.mp h
  obtain ⟨span, hspan, h⟩ := exists_span_of_body h
  obtain rfl := Option.some.inj h
  exact ⟨span, ⟨hspan, rfl, rfl, rfl⟩, rfl⟩

/-- A method of a script is read from its line, and its owner from the types around it. -/
theorem Script.exists_readFrom {types : List (Span × List Char)}
    (h : Script.methodAt? file code types i line = some m) :
    ∃ span, ReadFrom code 3 i line span m ∧ m.owner = ownerAt types i := by
  simp only [Script.methodAt?] at h
  split at h
  · cases h
  obtain ⟨⟨name, shorthand⟩, _, h⟩ := Option.bind_eq_some_iff.mp h
  split at h
  · cases h
  split at h
  · cases h
  obtain ⟨span, hspan, h⟩ := exists_span_of_body h
  obtain rfl := Option.some.inj h
  exact ⟨span, ⟨hspan, rfl, rfl, rfl⟩, rfl⟩

/-- A method of Rust is read from its line, and its owner from the types around it. -/
theorem Rust.exists_readFrom {types : List (Span × List Char)}
    (h : Rust.methodAt? file code types i line = some m) :
    ∃ span, ReadFrom code 8 i line span m ∧ m.owner = ownerAt types i := by
  simp only [Rust.methodAt?] at h
  split at h
  · cases h
  obtain ⟨found, _, h⟩ := Option.bind_eq_some_iff.mp h
  obtain ⟨span, hspan, h⟩ := Option.bind_eq_some_iff.mp h
  obtain rfl := Option.some.inj h
  exact ⟨span, ⟨.inl hspan, rfl, rfl, rfl⟩, rfl⟩

end Methods

/-! ## The readers -/

/-- The reader of Go takes what it finds from lines of the text. -/
theorem Go.placed : Go.dialect.Placed where
  tests := by
    intro code t ht
    obtain ⟨⟨line, i⟩, _, h⟩ := List.mem_filterMap.mp ht
    obtain ⟨m, _, h⟩ := Option.bind_eq_some_iff.mp h
    obtain ⟨span, hspan, rfl⟩ := Option.map_eq_some_iff.mp h
    exact ⟨within_of_braceBody? hspan, nofun⟩
  methods := by
    intro file code m hm
    obtain ⟨⟨line, i⟩, hline, h⟩ := List.mem_filterMap.mp hm
    obtain ⟨span, hread⟩ := Go.exists_readFrom h
    exact ⟨span, hread.within hline, hread.line_eq, hread.endLine_eq, hread.body_eq⟩
  assertions := fun _ _ _ _ h => line_of_mem_scanAssertions h

/-- The reader of Python takes what it finds from lines of the text. -/
theorem Python.placed : Python.dialect.Placed where
  tests := by
    intro code t ht
    obtain ⟨⟨line, i⟩, _, h⟩ := List.mem_filterMap.mp ht
    obtain ⟨name, _, h⟩ := Option.bind_eq_some_iff.mp h
    split at h
    · obtain ⟨span, hspan, rfl⟩ := Option.map_eq_some_iff.mp h
      exact ⟨within_of_indentBody? hspan, nofun⟩
    · cases h
  methods := by
    intro file code m hm
    obtain ⟨⟨line, i⟩, _, h⟩ := List.mem_filterMap.mp hm
    obtain ⟨name, _, h⟩ := Option.bind_eq_some_iff.mp h
    simp only [] at h
    split at h
    · cases h
    obtain ⟨span, hspan, h⟩ := Option.bind_eq_some_iff.mp h
    obtain rfl := Option.some.inj h
    exact ⟨span, within_of_indentBody? hspan, rfl, rfl, rfl⟩
  assertions := fun _ _ _ _ h => line_of_mem_scanAssertions h

/-- The reader of Java takes what it finds from lines of the text. -/
theorem Java.placed : Java.dialect.Placed where
  tests := by
    intro code t ht
    obtain ⟨⟨i, name⟩, _, h⟩ := List.mem_filterMap.mp ht
    obtain ⟨span, hspan, rfl⟩ := Option.map_eq_some_iff.mp h
    exact ⟨within_of_braceBody? hspan, nofun⟩
  methods := by
    intro file code m hm
    obtain ⟨⟨line, i⟩, hline, h⟩ := List.mem_filterMap.mp hm
    obtain ⟨span, hread, _⟩ := Java.exists_readFrom h
    exact ⟨span, hread.within hline, hread.line_eq, hread.endLine_eq, hread.body_eq⟩
  assertions := by
    intro framework body first a ha
    obtain ⟨b, hb, rfl⟩ := List.mem_map.mp ha
    have hline := line_of_mem_scanAssertions hb
    -- TestNG changes the sides of an assertion and keeps its line.
    split <;> exact hline

/-- The reader of C# takes what it finds from lines of the text. -/
theorem Csharp.placed : Csharp.dialect.Placed where
  tests := by
    intro code t ht
    obtain ⟨⟨i, name⟩, _, h⟩ := List.mem_filterMap.mp ht
    obtain ⟨span, hspan, rfl⟩ := Option.map_eq_some_iff.mp h
    exact ⟨within_of_braceBody? hspan, nofun⟩
  methods := by
    intro file code m hm
    obtain ⟨⟨line, i⟩, hline, h⟩ := List.mem_filterMap.mp hm
    obtain ⟨span, hread, _⟩ := Csharp.exists_readFrom h
    exact ⟨span, hread.within hline, hread.line_eq, hread.endLine_eq, hread.body_eq⟩
  assertions := fun _ _ _ _ h => line_of_mem_scanAssertions h

/-- The reader of TypeScript and JavaScript takes what it finds from lines of the text. -/
theorem Script.placed : Script.dialect.Placed where
  tests := by
    intro code t ht
    obtain ⟨⟨line, i⟩, hline, h⟩ := List.mem_filterMap.mp ht
    obtain ⟨m, _, rfl⟩ := Option.map_eq_some_iff.mp h
    refine ⟨?_, nofun⟩
    cases hspan : braceBody? code i 3 with
    | none => exact within_lineSpan hline
    | some span => exact within_of_braceBody? hspan
  methods := by
    intro file code m hm
    obtain ⟨⟨line, i⟩, hline, h⟩ := List.mem_filterMap.mp hm
    obtain ⟨span, hread, _⟩ := Script.exists_readFrom h
    exact ⟨span, hread.within hline, hread.line_eq, hread.endLine_eq, hread.body_eq⟩
  assertions := fun _ _ _ _ h => line_of_mem_scanAssertions h

/-- The reader of Rust takes what it finds from lines of the text. -/
theorem Rust.placed : Rust.dialect.Placed where
  tests := by
    intro code t ht
    obtain ⟨⟨line, i⟩, _, h⟩ := List.mem_filterMap.mp ht
    simp only [Rust.testBelow?] at h
    split at h
    · obtain ⟨⟨j, name, panic⟩, _, h⟩ := Option.bind_eq_some_iff.mp h
      obtain ⟨span, hspan, h⟩ := Option.bind_eq_some_iff.mp h
      obtain rfl := Option.some.inj h
      refine ⟨within_of_braceBody? hspan, ?_⟩
      intro a ha
      obtain ⟨message, _, rfl⟩ := Option.map_eq_some_iff.mp (Option.mem_toList.mp ha)
      exact (first_of_braceBody? hspan).symm
    · cases h
  methods := by
    intro file code m hm
    obtain ⟨⟨line, i⟩, hline, h⟩ := List.mem_filterMap.mp hm
    obtain ⟨span, hread, _⟩ := Rust.exists_readFrom h
    exact ⟨span, hread.within hline, hread.line_eq, hread.endLine_eq, hread.body_eq⟩
  assertions := fun _ _ _ _ h => line_of_mem_scanAssertions h

/-- Every reader takes what it finds from lines of the text. -/
theorem placed_dialect (language : Language) : language.dialect.Placed := by
  cases language with
  | java => exact Java.placed
  | typescript => exact Script.placed
  | javascript => exact Script.placed
  | python => exact Python.placed
  | go => exact Go.placed
  | rust => exact Rust.placed
  | csharp => exact Csharp.placed

/-! ## Declarations of a text -/

variable {d : Dialect} {file : Path} {content : List Char}

/-- A test of a text has the place of a span within it. -/
theorem Dialect.Placed.exists_span_of_mem_tests (hd : d.Placed) {t : TestCase}
    (ht : t ∈ (d.read file content).tests) : ∃ span : Span, span.Within (lines content) ∧
      t.line = span.first ∧ t.endLine = span.last ∧ t.body = String.ofList span.text ∧
      ∀ a ∈ t.assertions, span.first ≤ a.line ∧ a.line ≤ span.last := by
  obtain ⟨located, hlocated, rfl⟩ := List.mem_map.mp ht
  obtain ⟨hwithin, hleading⟩ := hd.tests _ _ hlocated
  refine ⟨located.span, hwithin, rfl, rfl, rfl, ?_⟩
  have hone := hwithin.one_le_first
  have hle := hwithin.first_le_last
  intro a ha
  rcases List.mem_append.mp ha with ha | ha
  · rw [hleading a ha]
    exact ⟨Nat.le_refl _, hle⟩
  · obtain ⟨hfirst, hlast⟩ := hd.assertions _ _ _ _ ha
    have hlength := hwithin.length_lines_text_le fun line => not_mem_of_mem_lines
    omega

/-- A method of a text has the place of a span within it. -/
theorem Dialect.Placed.exists_span_of_mem_methods (hd : d.Placed) {m : Method}
    (hm : m ∈ (d.read file content).methods) : ∃ span : Span, span.Within (lines content) ∧
      m.line = span.first ∧ m.endLine = span.last ∧ m.body = String.ofList span.text :=
  hd.methods file _ m (List.mem_filter.mp hm).1

/-- No method begins on the line of a test. -/
theorem Dialect.line_ne_of_mem_read {t : TestCase} (ht : t ∈ (d.read file content).tests)
    {m : Method} (hm : m ∈ (d.read file content).methods) : m.line ≠ t.line := by
  have hall := List.all_eq_true.mp (List.mem_filter.mp hm).2 t ht
  exact fun he => (bne_iff_ne.mp hall) he.symm

end Adjudicator.Reader

namespace Adjudicator

open Text

/-- The lines from `first` to `last`, counted from one, are lines of a text, and joined they are
the given body. -/
def OnLines (code : List (List Char)) (first last : Nat) (body : String) : Prop :=
  1 ≤ first ∧ first ≤ last ∧ last ≤ code.length ∧
    body.toList = joinLines ((code.drop (first - 1)).take (last - (first - 1)))

/-- The span of a declaration says on which lines it is. -/
private theorem onLines_of_within {code : List (List Char)} {span : Code.Span}
    (h : span.Within code) : OnLines code span.first span.last (String.ofList span.text) := by
  refine ⟨h.one_le_first, h.first_le_last, h.last_le_length, ?_⟩
  rw [String.toList_ofList]
  exact h.text_eq

/-- Tests and methods are where their lines say, assertions are on lines of their test, and no
method begins on the line of a test. -/
theorem declarations_on_lines (file : Path) (content : List Char) :
    (∀ t ∈ (Declarations.ofSource file content).tests,
      OnLines (lines content) t.line t.endLine t.body ∧
      ∀ a ∈ t.assertions, t.line ≤ a.line ∧ a.line ≤ t.endLine) ∧
    (∀ m ∈ (Declarations.ofSource file content).methods,
      OnLines (lines content) m.line m.endLine m.body) ∧
    ∀ t ∈ (Declarations.ofSource file content).tests,
      ∀ m ∈ (Declarations.ofSource file content).methods, m.line ≠ t.line := by
  unfold Declarations.ofSource
  cases Language.ofPath? file with
  | none => exact ⟨nofun, nofun, nofun⟩
  | some language =>
    have hd := Reader.placed_dialect language
    refine ⟨?_, ?_, fun t ht m hm => Reader.Dialect.line_ne_of_mem_read ht hm⟩
    · intro t ht
      obtain ⟨span, hspan, hfirst, hlast, hbody, hassertions⟩ := hd.exists_span_of_mem_tests ht
      rw [hfirst, hlast, hbody]
      exact ⟨onLines_of_within hspan, hassertions⟩
    · intro m hm
      obtain ⟨span, hspan, hfirst, hlast, hbody⟩ := hd.exists_span_of_mem_methods hm
      rw [hfirst, hlast, hbody]
      exact onLines_of_within hspan

end Adjudicator
