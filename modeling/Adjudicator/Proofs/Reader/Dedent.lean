import Adjudicator.Proofs.Code.Span
import Adjudicator.Proofs.Pattern.Needed
import Adjudicator.Reader.Python

/-!
# Lines below a declaration

An indented body ends before the first line that is indented no deeper than its declaration, but
the lines of the header in front of it are taken at any indent. Main statement: below a declaration
that closes its parameter list and ends with a colon, all on its own line, the span has only deeper
lines and blank ones; without the colon the line below is taken as a part of the header.
-/

namespace Adjudicator.Code

open Text

/-- The parentheses and brackets of a declaration are closed on its line. -/
def ClosesList (line : List Char) : Prop :=
  parenDelta (stripHashComment line) = 0

/-- A line ends with a colon, outside literals and comments. -/
def EndsInColon (line : List Char) : Prop :=
  (trimEnd (stripHashComment line)).getLast? = some ':'

instance (line : List Char) : Decidable (ClosesList line) :=
  inferInstanceAs (Decidable (_ = _))

instance (line : List Char) : Decidable (EndsInColon line) :=
  inferInstanceAs (Decidable (_ = _))

variable {code rest : List (List Char)} {declaration line : List Char} {limit start i : Nat}
  {span : Span}

/-- The lines of an indented body are deeper than the limit or blank. -/
theorem lt_indentOf_of_lt_indentedLength (hi : i < indentedLength limit rest)
    (hline : rest[i]? = some line) (hblank : blank line = false) : limit < indentOf line := by
  induction rest generalizing i with
  | nil => cases hline
  | cons first rest ih =>
    rw [indentedLength] at hi
    cases i with
    | zero =>
      obtain rfl := Option.some.inj hline
      rw [hblank] at hi
      simp only [Bool.false_eq_true, if_false] at hi
      split at hi
      · exact absurd hi (Nat.lt_irrefl 0)
      · omega
    | succ i =>
      rw [List.getElem?_cons_succ] at hline
      have hlt : i < indentedLength limit rest := by
        split at hi
        · split at hi <;> omega
        · split at hi <;> omega
      exact ih hlt hline

/-- A declaration that ends on its line is the whole header, and no other is when a line follows. -/
theorem headerLength_eq_one_iff {header : Nat} (hlist : ClosesList declaration)
    (h : headerLength 0 0 (declaration :: rest) = some header) :
    header = 1 ↔ EndsInColon declaration ∨ rest = [] := by
  have hdepth : (0 : Int) + parenDelta (stripHashComment declaration) = 0 := by
    rw [Int.zero_add]
    exact hlist
  rw [headerLength, hdepth] at h
  simp only [Int.le_refl, true_and, Nat.not_lt_zero, if_false] at h
  split at h
  next hcolon => exact iff_of_true (Option.some.inj h).symm (.inl hcolon)
  next hcolon =>
    cases rest with
    | nil => exact iff_of_true (Option.some.inj h).symm (.inr rfl)
    | cons below rest =>
      have hpos := headerLength_pos h
      refine iff_of_false (by omega) ?_
      rintro (h | h)
      · exact hcolon h
      · cases h

/-- A span consists of the lines of a header and of deeper lines, blank ones apart. -/
theorem exists_header_of_indentBody? (hdecl : code[start]? = some declaration)
    (hspan : indentBody? code start = some span) :
    ∃ header, headerLength 0 0 (declaration :: code.drop (start + 1)) = some header ∧
      start + header ≤ span.last ∧
      ∀ i line, start + header ≤ i → i < span.last → code[i]? = some line →
        blank line = false → indentOf declaration < indentOf line := by
  obtain ⟨hlt, hget⟩ := List.getElem?_eq_some_iff.mp hdecl
  have hdrop : code.drop start = declaration :: code.drop (start + 1) := by
    rw [List.drop_eq_getElem_cons hlt, hget]
  rw [indentBody?, hdrop] at hspan
  obtain ⟨header, hheader, rfl⟩ := Option.map_eq_some_iff.mp hspan
  have hpos := headerLength_pos hheader
  refine ⟨header, hheader, ?_, ?_⟩
  · change start + header ≤ _ - 1 + 1
    omega
  · intro i line hle hi hline hblank
    change i < _ - 1 + 1 at hi
    have hbelow : (code.drop (start + header))[i - (start + header)]? = some line := by
      rwa [List.getElem?_drop, Nat.add_sub_cancel' hle]
    exact lt_indentOf_of_lt_indentedLength (by omega) hbelow hblank

end Adjudicator.Code

namespace Adjudicator.Reader.Python

open Text Code Pattern

/-- A blank line declares nothing. -/
theorem functionName?_of_blank {line : List Char} (h : blank line = true) :
    functionName? line = none := by
  have hneeds : functionStart.Needs "def".toList :=
    (needs_text "def").behind.append.append.append.append
  rw [functionName?, hneeds.find?_eq_none, Option.map_none]
  intro hword
  have hblank := List.all_eq_true.mp h 'd' (hword.subset (List.mem_cons_self ..))
  revert hblank
  decide

/-- Below a declaration that ends with a colon on its own line, what is indented no deeper is blank
and declares nothing. Below one that closes its list and has no colon at its end, the next line
belongs to the span at any indent. -/
theorem lines_below_declaration {code : List (List Char)} {start : Nat} {declaration : List Char}
    {span : Span} (hdecl : code[start]? = some declaration) (hlist : ClosesList declaration)
    (hspan : indentBody? code start = some span) :
    (EndsInColon declaration →
      ∀ i line, start < i → i < span.last → code[i]? = some line →
        indentOf line ≤ indentOf declaration → blank line = true ∧ functionName? line = none) ∧
    (¬EndsInColon declaration → start + 1 < code.length → start + 1 < span.last) := by
  obtain ⟨header, hheader, hlast, hdeeper⟩ := exists_header_of_indentBody? hdecl hspan
  have hone := headerLength_eq_one_iff hlist hheader
  have hpos := headerLength_pos hheader
  constructor
  · intro hcolon i line hlt hi hline hindent
    have hheader : header = 1 := hone.mpr (.inl hcolon)
    have hblank : blank line = true := by
      by_contra hblank
      have hlt := hdeeper i line (by omega) hi hline (Bool.eq_false_of_not_eq_true hblank)
      omega
    exact ⟨hblank, functionName?_of_blank hblank⟩
  · intro hcolon hnext
    have hne : header ≠ 1 := by
      rw [Ne, hone, List.drop_eq_nil_iff]
      rintro (h | h)
      · exact hcolon h
      · omega
    omega

/-- A function of two lines, below which another one begins. -/
theorem lines_below_total :
    ∃ span, indentBody? ["def total(items):  # sum".toList, "    return sum(items)".toList, [],
        "def count(items):".toList] 0 = some span ∧
      (∀ i line, 0 < i → i < span.last →
        ["def total(items):  # sum".toList, "    return sum(items)".toList, [],
          "def count(items):".toList][i]? = some line →
        indentOf line ≤ indentOf "def total(items):  # sum".toList →
        blank line = true ∧ functionName? line = none) := by
  refine ⟨.ofLines ["def total(items):  # sum".toList, "    return sum(items)".toList, [],
    "def count(items):".toList] 0 1, by decide, ?_⟩
  exact (lines_below_declaration rfl (by decide) (by decide)).1 (by decide)

/-- A function on one line takes the declaration below it for a part of its header. -/
theorem function_on_one_line_takes_the_next :
    ¬∀ (code : List (List Char)) (start : Nat) (declaration : List Char) (span : Span),
      code[start]? = some declaration → functionName? declaration ≠ none →
        ClosesList declaration → indentBody? code start = some span →
        ∀ i line, start < i → i < span.last → code[i]? = some line → blank line = false →
          indentOf declaration < indentOf line := by
  intro h
  have hlt := h ["def one(): return 1".toList, "def two():".toList, "    return 2".toList] 0 _
    (.ofLines ["def one(): return 1".toList, "def two():".toList, "    return 2".toList] 0 2) rfl
    (by decide) (by decide) (by decide) 1 "def two():".toList
    (by decide) (by decide) rfl (by decide)
  revert hlt
  decide

end Adjudicator.Reader.Python
