import Adjudicator.Proofs.Text.Trim
import Adjudicator.Text.Lines

/-!
# Lines of joined texts

No line holds a line feed, so lines that are joined again are no more than they were. They can be
fewer: an empty last line is no line of the joined text, while lines that are not empty are read
back. The lines of any text are the pieces between its line feeds, less the carriage returns in
front of these.
-/

namespace Adjudicator.Text

private theorem mem_of_mem_dropReturn {c : Char} {line : List Char} (h : c ∈ dropReturn line) :
    c ∈ line := by
  unfold dropReturn at h
  split at h
  · exact List.mem_cons_of_mem _ h
  · exact h

private theorem not_mem_of_mem_linesFrom {s current : List Char} (h : '\n' ∉ current) :
    ∀ line ∈ linesFrom current s, '\n' ∉ line := by
  induction s generalizing current with
  | nil =>
    intro line hline
    rw [linesFrom] at hline
    split at hline
    · cases hline
    · rw [List.mem_singleton.mp hline, List.mem_reverse]
      exact h
  | cons c s ih =>
    intro line hline
    rw [linesFrom] at hline
    split at hline
    · rcases List.mem_cons.mp hline with rfl | hline
      · rw [List.mem_reverse]
        exact fun hm => h (mem_of_mem_dropReturn hm)
      · exact ih List.not_mem_nil line hline
    next hc =>
      refine ih ?_ line hline
      rw [List.mem_cons, not_or]
      exact ⟨Ne.symm hc, h⟩

/-- No line holds a line feed. -/
theorem not_mem_of_mem_lines {s line : List Char} (h : line ∈ lines s) : '\n' ∉ line :=
  not_mem_of_mem_linesFrom List.not_mem_nil line h

/-- A line without a line feed is read into the current line. -/
private theorem linesFrom_append {line : List Char} (h : '\n' ∉ line) (current rest : List Char) :
    linesFrom current (line ++ rest) = linesFrom (line.reverse ++ current) rest := by
  induction line generalizing current with
  | nil => rfl
  | cons c line ih =>
    obtain ⟨hc, hline⟩ := not_or.mp (mt List.mem_cons.mpr h)
    rw [List.cons_append, linesFrom, if_neg (Ne.symm hc), ih hline, List.reverse_cons,
      List.append_assoc, List.singleton_append]

/-- A text without a line feed is one line. -/
theorem lines_eq_singleton {s : List Char} (hne : s ≠ []) (h : '\n' ∉ s) : lines s = [s] := by
  have hempty : s.reverse.isEmpty = false := by simpa using hne
  have hlines := linesFrom_append h [] []
  rw [List.append_nil, List.append_nil, linesFrom, hempty, List.reverse_reverse] at hlines
  exact hlines

/-- One line is joined to itself. -/
theorem joinLines_singleton (line : List Char) : joinLines [line] = line := by
  rw [joinLines, joinWith, List.intercalate_singleton]

/-- A line stands in front of the others with a line feed between. -/
theorem joinLines_cons (line : List Char) {rest : List (List Char)} (h : rest ≠ []) :
    joinLines (line :: rest) = line ++ '\n' :: joinLines rest := by
  obtain ⟨next, rest, rfl⟩ := List.exists_cons_of_ne_nil h
  rw [joinLines, joinWith, List.intercalate_cons_cons, List.append_assoc, List.singleton_append]
  rfl

/-- Joined lines are no more than they were. -/
theorem length_lines_joinLines_le {parts : List (List Char)} (h : ∀ line ∈ parts, '\n' ∉ line) :
    (lines (joinLines parts)).length ≤ parts.length := by
  induction parts with
  | nil => exact Nat.le_refl 0
  | cons line rest ih =>
    obtain ⟨hline, hrest⟩ := List.forall_mem_cons.mp h
    cases rest with
    | nil =>
      rw [joinLines_singleton, lines, ← List.append_nil line, linesFrom_append hline, linesFrom]
      split
      · exact Nat.zero_le _
      · exact Nat.le_refl 1
    | cons next rest =>
      rw [joinLines_cons line (List.cons_ne_nil next rest), lines, linesFrom_append hline,
        linesFrom, if_pos rfl, List.length_cons, List.length_cons]
      exact Nat.succ_le_succ (ih hrest)

example : lines (joinLines [['a'], []]) = [['a']] := by
  decide

/-! ## Pieces between line feeds -/

/-- A piece of text in front of a line feed, as a line. -/
def lineOf (piece : List Char) : List Char :=
  (dropReturn piece.reverse).reverse

/-- The lines that pieces between line feeds make; the last piece is none when it is empty. -/
def linesOf : List (List Char) → List (List Char)
  | [] => []
  | [last] => if last.isEmpty then [] else [last]
  | piece :: next :: rest => lineOf piece :: linesOf (next :: rest)

/-- A piece in front of others is a line in front of theirs. -/
theorem linesOf_cons (piece : List Char) {rest : List (List Char)} (h : rest ≠ []) :
    linesOf (piece :: rest) = lineOf piece :: linesOf rest := by
  obtain ⟨next, rest, rfl⟩ := List.exists_cons_of_ne_nil h
  rfl

private theorem modifyHead_nil_append (pieces : List (List Char)) :
    pieces.modifyHead (List.reverse [] ++ ·) = pieces :=
  congrFun List.modifyHead_id pieces

private theorem linesFrom_eq_linesOf (current s : List Char) :
    linesFrom current s = linesOf ((s.splitOn '\n').modifyHead (current.reverse ++ ·)) := by
  induction s generalizing current with
  | nil =>
    rw [linesFrom, List.splitOn_nil, List.modifyHead_cons, linesOf, List.append_nil,
      List.isEmpty_reverse]
  | cons c s ih =>
    rw [linesFrom, List.splitOn_cons_eq_if_modifyHead]
    by_cases hc : c = '\n'
    · rw [if_pos hc, if_pos (beq_iff_eq.mpr hc), List.modifyHead_cons, List.append_nil,
        linesOf_cons _ (List.splitOn_ne_nil _ _), ih, modifyHead_nil_append, lineOf,
        List.reverse_reverse]
    · have hcomp : (current.reverse ++ ·) ∘ (c :: ·) = ((c :: current).reverse ++ ·) := by
        funext piece
        rw [Function.comp_apply, List.reverse_cons, List.append_assoc, List.singleton_append]
      rw [if_neg hc, if_neg (mt beq_iff_eq.mp hc), List.modifyHead_modifyHead, hcomp, ih]

/-- The lines of a text are made of its pieces between line feeds. -/
theorem lines_eq_linesOf (s : List Char) : lines s = linesOf (s.splitOn '\n') := by
  rw [lines, linesFrom_eq_linesOf, modifyHead_nil_append]

/-- A carriage return at the end of a piece is no part of the line. -/
theorem lineOf_concat_return (s : List Char) : lineOf (s ++ ['\r']) = s := by
  rw [lineOf, List.reverse_append, List.reverse_singleton, List.singleton_append, dropReturn,
    List.reverse_reverse]

/-- Only a carriage return is dropped of a line. -/
theorem lineOf_eq_self {s : List Char} (h : s.getLast? ≠ some '\r') : lineOf s = s := by
  rw [lineOf, dropReturn.eq_2, List.reverse_reverse]
  intro rest hrest
  rw [← List.head?_reverse, hrest] at h
  exact h rfl

/-! ## Lines behind line feeds -/

private theorem linesFrom_append_feed (current front back : List Char) :
    linesFrom current (front ++ '\n' :: back) =
      linesFrom current (front ++ ['\n']) ++ linesFrom [] back := by
  induction front generalizing current with
  | nil => rfl
  | cons c front ih =>
    rw [List.cons_append, linesFrom, List.cons_append, linesFrom.eq_2 current]
    split
    · rw [ih, List.cons_append]
    · exact ih _

/-- A line feed parts the lines in front of it from those behind it. -/
theorem lines_append_feed (front back : List Char) :
    lines (front ++ '\n' :: back) = lines (front ++ ['\n']) ++ lines back :=
  linesFrom_append_feed [] front back

/-- Texts that are each followed by a line feed make their lines one after the other. -/
theorem lines_flatMap_feed (parts : List (List Char)) :
    lines (parts.flatMap (· ++ ['\n'])) = parts.flatMap fun part => lines (part ++ ['\n']) := by
  induction parts with
  | nil => rfl
  | cons part rest ih =>
    rw [List.flatMap_cons, List.flatMap_cons, List.append_assoc, List.singleton_append,
      lines_append_feed, ih]

/-- A text without line ends and the line feed behind it are one line. -/
theorem lines_line {s : List Char} (h : '\n' ∉ s) (hlast : s.getLast? ≠ some '\r') :
    lines (s ++ ['\n']) = [s] := by
  rw [lines, linesFrom_append h, List.append_nil, linesFrom, if_pos rfl, ← lineOf,
    lineOf_eq_self hlast]
  rfl

/-- Lines that are not empty are read back from the joined text. -/
theorem lines_joinLines {ls : List (List Char)}
    (h : ∀ line ∈ ls, line ≠ [] ∧ '\n' ∉ line ∧ line.getLast? ≠ some '\r') :
    lines (joinLines ls) = ls := by
  induction ls with
  | nil => rfl
  | cons line rest ih =>
    obtain ⟨⟨hne, hfeed, hreturn⟩, hrest⟩ := List.forall_mem_cons.mp h
    cases rest with
    | nil =>
      rw [joinLines_singleton]
      exact lines_eq_singleton hne hfeed
    | cons next rest =>
      rw [joinLines_cons line (List.cons_ne_nil next rest), lines_append_feed,
        lines_line hfeed hreturn, ih hrest, List.singleton_append]

/-- Lines that are not empty end a joined text as the last of them ends. -/
theorem mem_getLast?_joinLines {ls : List (List Char)} (h : ∀ line ∈ ls, line ≠ []) {c : Char}
    (hc : c ∈ (joinLines ls).getLast?) : ∃ line ∈ ls, c ∈ line.getLast? := by
  induction ls with
  | nil => cases hc
  | cons line rest ih =>
    cases rest with
    | nil =>
      rw [joinLines_singleton] at hc
      exact ⟨line, List.mem_cons_self, hc⟩
    | cons next rest =>
      obtain ⟨-, hrest⟩ := List.forall_mem_cons.mp h
      have hne : joinLines (next :: rest) ≠ [] := by
        cases rest with
        | nil =>
          rw [joinLines_singleton]
          exact hrest next List.mem_cons_self
        | cons third rest =>
          rw [joinLines_cons next (List.cons_ne_nil third rest)]
          exact List.append_ne_nil_of_right_ne_nil _ (List.cons_ne_nil _ _)
      rw [joinLines_cons line (List.cons_ne_nil next rest), List.append_cons,
        List.getLast?_append_of_ne_nil _ hne] at hc
      obtain ⟨last, hmem, hlast⟩ := ih hrest hc
      exact ⟨last, List.mem_cons_of_mem _ hmem, hlast⟩

/-! ## Blank lines -/

/-- Joined lines are blank when all of them are. -/
theorem blank_joinLines (ls : List (List Char)) : blank (joinLines ls) = ls.all blank := by
  induction ls with
  | nil => rfl
  | cons line rest ih =>
    cases rest with
    | nil => rw [joinLines_singleton, List.all_cons, List.all_nil, Bool.and_true]
    | cons next rest =>
      rw [joinLines_cons line (List.cons_ne_nil next rest), List.all_cons, ← ih, blank,
        List.all_append, List.all_cons, show isBlank '\n' = true from rfl, Bool.true_and]
      rfl

private theorem blank_dropReturn (line : List Char) : blank (dropReturn line) = blank line := by
  unfold dropReturn
  split <;> rfl

private theorem all_blank_linesFrom (current s : List Char) :
    (linesFrom current s).all blank = (blank current && blank s) := by
  have hreverse (line : List Char) : blank line.reverse = blank line := List.all_reverse
  induction s generalizing current with
  | nil =>
    rw [linesFrom]
    split
    next h => rw [List.isEmpty_iff.mp h]; rfl
    next => rw [List.all_cons, List.all_nil, hreverse]; rfl
  | cons c s ih =>
    rw [linesFrom]
    split
    next h =>
      rw [List.all_cons, ih, hreverse, blank_dropReturn, h]
      rfl
    next =>
      simp only [ih, blank, List.all_cons, Bool.and_assoc, Bool.and_left_comm]

/-- The lines of a text are blank when all of it is. -/
theorem all_blank_lines (s : List Char) : (lines s).all blank = blank s := by
  rw [lines, all_blank_linesFrom]
  rfl

/-- Empty lines in front are trimmed. -/
theorem trim_joinLines_dropWhile_isEmpty (ls : List (List Char)) :
    trim (joinLines (ls.dropWhile List.isEmpty)) = trim (joinLines ls) := by
  induction ls with
  | nil => rfl
  | cons line rest ih =>
    rw [List.dropWhile_cons]
    split
    next hempty =>
      rw [ih, List.isEmpty_iff.mp hempty]
      cases rest with
      | nil => rfl
      | cons next rest =>
        rw [joinLines_cons [] (List.cons_ne_nil next rest), List.nil_append]
        exact (trim_blanks_append (t := ['\n']) (List.forall_mem_singleton.mpr rfl) _).symm
    next => rfl

end Adjudicator.Text
