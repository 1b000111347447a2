import Adjudicator.Code.Body
import Adjudicator.Proofs.Text.Lines

/-!
# Spans of declarations

Wherever the search for a body starts, the span that it gives lies within the lines of the text:
it has at least one line, and none behind the last.
-/

namespace Adjudicator.Code

open Text

/-- A span of lines of a text. -/
def Span.Within (code : List (List Char)) (span : Span) : Prop :=
  ∃ start stop, start ≤ stop ∧ stop < code.length ∧ span = .ofLines code start stop

variable {code : List (List Char)}

/-- Lines come in the order of their indices. -/
theorem pairwise_zipIdx (code : List (List Char)) :
    code.zipIdx.Pairwise fun p q => p.2 < q.2 := by
  rw [← List.pairwise_map, List.zipIdx_map_snd]
  exact List.pairwise_lt_range'

/-! ## Bodies in braces -/

private theorem braceLength_bounds {lookahead read n : Nat} {s : BraceScan}
    {rest : List (List Char)} (h : braceLength lookahead s read rest = some n) :
    read ≤ n ∧ n ≤ read + rest.length := by
  induction rest generalizing s read with
  | nil =>
    cases s with
    | inside depth =>
      obtain rfl := Option.some.inj h
      exact ⟨Nat.le_refl _, Nat.le_refl _⟩
    | _ => cases h
  | cons line rest ih =>
    rw [List.length_cons]
    rw [braceLength] at h
    cases hs : s.readLine line with
    | closed =>
      rw [hs] at h
      obtain rfl := Option.some.inj h
      omega
    | refused =>
      rw [hs] at h
      cases h
    | inside depth =>
      rw [hs] at h
      have hn := ih h
      omega
    | seeking =>
      simp only [hs] at h
      split at h
      · cases h
      · have hn := ih h
        omega

/-- A body that is found has a line. -/
theorem braceLength_pos {lookahead read n : Nat} {rest : List (List Char)}
    (h : braceLength lookahead .seeking read rest = some n) : read < n := by
  cases rest with
  | nil => cases h
  | cons line rest =>
    rw [braceLength] at h
    cases hs : BraceScan.seeking.readLine line with
    | closed =>
      rw [hs] at h
      obtain rfl := Option.some.inj h
      exact Nat.lt_succ_self read
    | refused =>
      rw [hs] at h
      cases h
    | inside depth =>
      rw [hs] at h
      exact (braceLength_bounds h).1
    | seeking =>
      simp only [hs] at h
      split at h
      · cases h
      · exact (braceLength_bounds h).1

/-- A body in braces lies within the text. -/
theorem within_of_braceBody? {start lookahead : Nat} {span : Span}
    (h : braceBody? code start lookahead = some span) : span.Within code := by
  obtain ⟨n, hn, rfl⟩ := Option.map_eq_some_iff.mp h
  have hpos := braceLength_pos hn
  have hle := (braceLength_bounds hn).2
  rw [List.length_drop] at hle
  exact ⟨start, start + n - 1, by omega, by omega, rfl⟩

/-- A body in braces begins on the line where its search starts. -/
theorem first_of_braceBody? {start lookahead : Nat} {span : Span}
    (h : braceBody? code start lookahead = some span) : span.first = start + 1 := by
  obtain ⟨n, _, rfl⟩ := Option.map_eq_some_iff.mp h
  rfl

/-! ## Indented bodies -/

private theorem headerLength_bounds {depth : Int} {read n : Nat} {rest : List (List Char)}
    (h : headerLength depth read rest = some n) : read ≤ n ∧ n ≤ read + rest.length := by
  induction rest generalizing depth read with
  | nil =>
    obtain rfl := Option.some.inj h
    exact ⟨Nat.le_refl _, Nat.le_refl _⟩
  | cons line rest ih =>
    rw [List.length_cons]
    rw [headerLength] at h
    split at h
    · obtain rfl := Option.some.inj h
      omega
    · split at h
      · cases h
      · have hn := ih h
        omega

/-- A header has the line of its declaration. -/
theorem headerLength_pos {depth : Int} {read n : Nat} {line : List Char}
    {rest : List (List Char)} (h : headerLength depth read (line :: rest) = some n) : read < n := by
  rw [headerLength] at h
  split at h
  · obtain rfl := Option.some.inj h
    exact Nat.lt_succ_self read
  · split at h
    · cases h
    · exact (headerLength_bounds h).1

private theorem indentedLength_le (limit : Nat) (rest : List (List Char)) :
    indentedLength limit rest ≤ rest.length := by
  induction rest with
  | nil => exact Nat.le_refl 0
  | cons line rest ih =>
    rw [indentedLength, List.length_cons]
    split
    · split
      · exact Nat.zero_le _
      · exact Nat.succ_le_succ ih
    · split
      · exact Nat.zero_le _
      · exact Nat.succ_le_succ ih

/-- An indented body lies within the text. -/
theorem within_of_indentBody? {start : Nat} {span : Span}
    (h : indentBody? code start = some span) : span.Within code := by
  unfold indentBody? at h
  cases hcode : code.drop start with
  | nil =>
    rw [hcode] at h
    cases h
  | cons declaration rest =>
    rw [hcode] at h
    obtain ⟨header, hheader, rfl⟩ := Option.map_eq_some_iff.mp h
    have hpos := headerLength_pos hheader
    have hle := (headerLength_bounds hheader).2
    rw [← hcode, List.length_drop] at hle
    have hbody := indentedLength_le (indentOf declaration) (code.drop (start + header))
    rw [List.length_drop] at hbody
    exact ⟨start, _, by omega, by omega, rfl⟩

/-- An indented body begins on the line where its search starts. -/
theorem first_of_indentBody? {start : Nat} {span : Span}
    (h : indentBody? code start = some span) : span.first = start + 1 := by
  unfold indentBody? at h
  split at h
  · cases h
  · obtain ⟨header, _, rfl⟩ := Option.map_eq_some_iff.mp h
    rfl

/-! ## What every span has -/

namespace Span.Within

variable {span : Span}

/-- The first line is counted from one. -/
theorem one_le_first (h : span.Within code) : 1 ≤ span.first := by
  obtain ⟨start, stop, _, _, rfl⟩ := h
  exact Nat.le_add_left 1 start

/-- There is a line. -/
theorem first_le_last (h : span.Within code) : span.first ≤ span.last := by
  obtain ⟨start, stop, hle, _, rfl⟩ := h
  exact Nat.succ_le_succ hle

/-- There is no line behind the last of the text. -/
theorem last_le_length (h : span.Within code) : span.last ≤ code.length := by
  obtain ⟨start, stop, _, hlt, rfl⟩ := h
  exact hlt

/-- The text is that of the lines. -/
theorem text_eq (h : span.Within code) :
    span.text = joinLines ((code.drop (span.first - 1)).take (span.last - (span.first - 1))) := by
  obtain ⟨start, stop, _, _, rfl⟩ := h
  rfl

/-- The text has no more lines than the span. -/
theorem length_lines_text_le (h : span.Within code) (hcode : ∀ line ∈ code, '\n' ∉ line) :
    (lines span.text).length ≤ span.last - (span.first - 1) := by
  rw [h.text_eq]
  refine Nat.le_trans (length_lines_joinLines_le ?_) (List.length_take_le _ _)
  intro line hline
  exact hcode line (List.mem_of_mem_drop (List.mem_of_mem_take hline))

end Span.Within

end Adjudicator.Code
