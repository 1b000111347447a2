import Adjudicator.Proofs.Code.Braces
import Adjudicator.Proofs.Reader.Placement

/-!
# Methods that overlap

A method of a script spans the declaration of another one when its body goes on to that line. Main
statement: then its body opens above the other declaration, with no semicolon before the brace; or
the lines above have neither a brace nor a semicolon, and the other declaration is at most three
lines below. The second happens to arrow functions without braces that no semicolon ends.
-/

namespace Adjudicator.Reader.Script

open Text Code

variable {file : Path} {code : List (List Char)}

/-- A method is on one line or has a body in braces within reach of its first line. -/
theorem exists_body_of_mem_methods {m : Method} (h : m ∈ methods file code) :
    m.endLine = m.line ∨ ∃ span, braceBody? code (m.line - 1) 3 = some span := by
  obtain ⟨⟨line, i⟩, _, h⟩ := List.mem_filterMap.mp h
  obtain ⟨span, hread, _⟩ := exists_readFrom h
  rcases hread.body with hspan | ⟨_, rfl⟩
  · refine .inr ⟨span, ?_⟩
    rw [hread.line_eq_succ, Nat.add_sub_cancel]
    exact hspan
  · exact .inl (hread.endLine_eq.trans hread.line_eq.symm)

/-- A method that spans the declaration of another one has opened its body on the lines above it,
before any semicolon; or these lines have neither brace nor semicolon, and are three at most. -/
theorem overlapping_methods (file : Path) (code : List (List Char)) :
    ∀ m₁ ∈ methods file code, ∀ m₂ ∈ methods file code,
      m₁.line < m₂.line → m₂.line ≤ m₁.endLine →
        ('{' ∈ codeFrom code (m₁.line - 1) (m₂.line - m₁.line) ∧
          ';' ∉ heading (codeFrom code (m₁.line - 1) (m₂.line - m₁.line))) ∨
        ('{' ∉ codeFrom code (m₁.line - 1) (m₂.line - m₁.line) ∧
          ';' ∉ codeFrom code (m₁.line - 1) (m₂.line - m₁.line) ∧ m₂.line ≤ m₁.line + 3) := by
  intro m₁ hm₁ m₂ _ hlt hle
  obtain ⟨span, hspan⟩ : ∃ span, braceBody? code (m₁.line - 1) 3 = some span :=
    (exists_body_of_mem_methods hm₁).resolve_left (by omega)
  obtain ⟨hopen, hend⟩ := not_or.mp (braceBody?_eq_some_iff.mp hspan).1
  rw [not_not] at hopen
  -- The lines within reach and those above the other declaration begin alike.
  by_cases hmem : '{' ∈ codeFrom code (m₁.line - 1) (m₂.line - m₁.line)
  · refine .inl ⟨hmem, ?_⟩
    rcases Nat.le_total (m₂.line - m₁.line) (3 + 1) with hreach | hreach
    · obtain ⟨rest, hrest⟩ := isPrefix_codeFrom code (m₁.line - 1) hreach
      rwa [← hrest, heading_append_of_mem hmem] at hend
    · obtain ⟨rest, hrest⟩ := isPrefix_codeFrom code (m₁.line - 1) hreach
      rwa [← hrest, heading_append_of_mem hopen]
  · have hreach : m₂.line - m₁.line ≤ 3 := by
      by_contra hreach
      exact hmem ((isPrefix_codeFrom code _ (by omega)).subset hopen)
    refine .inr ⟨hmem, ?_, by omega⟩
    obtain ⟨rest, hrest⟩ := isPrefix_codeFrom code (m₁.line - 1) (Nat.le_succ_of_le hreach)
    intro hsemicolon
    refine hend (hrest ▸ heading_subset_append _ rest ?_)
    rwa [heading_of_not_mem hmem]

/-- An arrow function inside the body of another one. -/
def nestedArrows : List (List Char) :=
  ["const outer = () => \x7b".toList, "  const inner = () => 1;".toList, "\x7d;".toList]

/-- The body of the outer function opens above the inner one. -/
theorem overlapping_nestedArrows :
    ∃ m₁ ∈ methods "" nestedArrows, ∃ m₂ ∈ methods "" nestedArrows,
      m₁.line = 1 ∧ m₂.line = 2 ∧ m₁.endLine = 3 ∧
        '{' ∈ codeFrom nestedArrows (m₁.line - 1) (m₂.line - m₁.line) := by
  have hlines : (methods "" nestedArrows).map (fun m => (m.line, m.endLine)) =
      [(1, 3), (2, 2)] := by
    decide
  obtain ⟨m₁, rest, hmethods, hlines₁, hrest⟩ := List.map_eq_cons_iff.mp hlines
  obtain ⟨m₂, rest, rfl, hlines₂, -⟩ := List.map_eq_cons_iff.mp hrest
  obtain ⟨hline₁, hend₁⟩ := Prod.mk.inj hlines₁
  obtain ⟨hline₂, -⟩ := Prod.mk.inj hlines₂
  have hm₁ : m₁ ∈ methods "" nestedArrows := by
    rw [hmethods]
    exact List.mem_cons_self
  have hm₂ : m₂ ∈ methods "" nestedArrows := by
    rw [hmethods]
    exact List.mem_cons_of_mem _ List.mem_cons_self
  refine ⟨m₁, hm₁, m₂, hm₂, hline₁, hline₂, hend₁, ?_⟩
  rcases overlapping_methods "" nestedArrows m₁ hm₁ m₂ hm₂ (by omega) (by omega) with h | h
  · exact h.1
  · rw [hline₁, hline₂] at h ⊢
    exact absurd (by decide) h.1

/-- An arrow function without a semicolon above one with a body in braces. -/
def adjacentArrows : List (List Char) :=
  ["const double = (n) => n * 2".toList, "const triple = (n) => \x7b".toList,
    "  return n * 3".toList, "\x7d".toList]

/-- An arrow function without braces that no semicolon ends takes the body of the next function. -/
theorem arrow_takes_next_body :
    ¬∀ (file : Path) (code : List (List Char)), ∀ m₁ ∈ methods file code, ∀ m₂ ∈ methods file code,
      m₁.line < m₂.line → m₂.line ≤ m₁.endLine →
        '{' ∈ codeFrom code (m₁.line - 1) (m₂.line - m₁.line) ∨
        ∃ line before after, code[m₂.line - 1]? = some line ∧
          cutAt? m₂.name.toList line = some (before, after) ∧ '{' ∈ stripLiterals before := by
  intro h
  have hlines : (methods "" adjacentArrows).map (fun m => (m.name, m.line, m.endLine)) =
      [("double", 1, 4), ("triple", 2, 4)] := by
    decide
  obtain ⟨m₁, rest, hmethods, hlines₁, hrest⟩ := List.map_eq_cons_iff.mp hlines
  obtain ⟨m₂, rest, rfl, hlines₂, -⟩ := List.map_eq_cons_iff.mp hrest
  obtain ⟨-, hline₁, hend₁⟩ : m₁.name = "double" ∧ m₁.line = 1 ∧ m₁.endLine = 4 := by
    simpa only [Prod.mk.injEq] using hlines₁
  obtain ⟨hname₂, hline₂, -⟩ : m₂.name = "triple" ∧ m₂.line = 2 ∧ m₂.endLine = 4 := by
    simpa only [Prod.mk.injEq] using hlines₂
  have h := h "" adjacentArrows m₁ (by rw [hmethods]; exact List.mem_cons_self) m₂
    (by rw [hmethods]; exact List.mem_cons_of_mem _ List.mem_cons_self) (by omega) (by omega)
  rw [hline₁, hline₂, hname₂] at h
  rcases h with h | ⟨line, before, after, hline, hcut, hmem⟩
  · revert h
    decide
  · obtain rfl := Option.some.inj hline
    have hbefore : cutAt? "triple".toList "const triple = (n) => \x7b".toList =
        some ("const ".toList, " = (n) => \x7b".toList) := by
      decide
    rw [hbefore] at hcut
    obtain ⟨rfl, -⟩ := Prod.mk.inj (Option.some.inj hcut)
    revert hmem
    decide

end Adjudicator.Reader.Script
