import Adjudicator.Proofs.Code.Span
import Mathlib.Data.List.Induction

/-!
# Bodies in braces

The search for a body reads the code of one line after the other and counts braces. Here its states
are described by the text that was read: which braces and semicolons it has, and how deep its end is
nested when counting begins at the first opening brace. Main statement: there is no body exactly
when the lines within reach have no opening brace or a semicolon before it; otherwise the body ends
on the line where the depth first returns to zero, or with the text.
-/

namespace Adjudicator.Code

open Text

/-! ## Depth -/

/-- What stands before the first opening brace. -/
def heading (s : List Char) : List Char :=
  s.takeWhile (· != '{')

/-- Open braces at the end of a text, counted from its first opening brace. -/
def depth (s : List Char) : Int :=
  braceBalance (s.dropWhile (· != '{'))

/-- The depth returns to zero somewhere in the text. -/
def Closes (s : List Char) : Prop :=
  ∃ p, p <+: s ∧ '{' ∈ p ∧ depth p = 0

/-- No body opens in the text: it has no opening brace, or a semicolon before the first one. -/
def Unopened (s : List Char) : Prop :=
  '{' ∉ s ∨ ';' ∈ heading s

section Depth

variable {s t : List Char} {c : Char}

private theorem bne_of_not_mem (h : '{' ∉ s) : ∀ c ∈ s, (c != '{') = true := by
  intro c hc
  rw [bne_iff_ne]
  rintro rfl
  exact h hc

/-- A text without a brace is all heading. -/
theorem heading_of_not_mem (h : '{' ∉ s) : heading s = s :=
  List.takeWhile_eq_self_iff.mpr (bne_of_not_mem h)

/-- Text behind the first opening brace is no part of the heading. -/
theorem heading_append_of_mem (h : '{' ∈ s) (t : List Char) : heading (s ++ t) = heading s := by
  obtain ⟨before, after, rfl, hbefore⟩ := List.eq_append_cons_of_mem h
  have hcut (rest : List Char) : heading (before ++ '{' :: rest) = before := by
    rw [heading, List.takeWhile_append_of_pos (bne_of_not_mem hbefore)]
    exact List.append_nil before
  rw [List.append_assoc, List.cons_append, hcut, hcut]

/-- A longer text has a heading that is no shorter. -/
theorem heading_subset_append (s t : List Char) : heading s ⊆ heading (s ++ t) := by
  by_cases h : '{' ∈ s
  · rw [heading_append_of_mem h]
    exact List.Subset.refl _
  · rw [heading_of_not_mem h, heading, List.takeWhile_append_of_pos (bne_of_not_mem h)]
    exact List.subset_append_left s _

/-- Each further brace changes the balance by one, and no other character does. -/
theorem braceBalance_concat (s : List Char) (c : Char) :
    braceBalance (s ++ [c]) =
      if c = '{' then braceBalance s + 1
      else if c = '}' then braceBalance s - 1 else braceBalance s := by
  rw [braceBalance, List.foldl_append]
  rfl

/-- Behind the first opening brace, each further brace changes the depth by one. -/
theorem depth_concat_of_mem (h : '{' ∈ s) (c : Char) :
    depth (s ++ [c]) =
      if c = '{' then depth s + 1 else if c = '}' then depth s - 1 else depth s := by
  obtain ⟨before, after, rfl, hbefore⟩ := List.eq_append_cons_of_mem h
  have hcut (rest : List Char) :
      (before ++ '{' :: rest).dropWhile (· != '{') = '{' :: rest := by
    rw [List.dropWhile_append_of_pos (bne_of_not_mem hbefore)]
    rfl
  rw [depth, depth, List.append_assoc, List.cons_append, hcut, hcut, ← List.cons_append,
    braceBalance_concat]

/-- The first opening brace is where counting begins. -/
theorem depth_concat_of_not_mem (h : '{' ∉ s) : depth (s ++ ['{']) = 1 := by
  rw [depth, List.dropWhile_append_of_pos (bne_of_not_mem h)]
  rfl

/-- What has closed in a text has closed in every longer one. -/
theorem Closes.append (h : Closes s) (t : List Char) : Closes (s ++ t) := by
  obtain ⟨p, hp, hmem, hdepth⟩ := h
  exact ⟨p, hp.trans (List.prefix_append s t), hmem, hdepth⟩

/-- A text in which a body closes has an opening brace. -/
theorem Closes.mem (h : Closes s) : '{' ∈ s := by
  obtain ⟨p, hp, hmem, _⟩ := h
  exact hp.subset hmem

/-- A further character closes a body when the depth is zero behind it, unless one has closed
before. -/
theorem closes_concat_iff :
    Closes (s ++ [c]) ↔ Closes s ∨ ('{' ∈ s ++ [c] ∧ depth (s ++ [c]) = 0) := by
  constructor
  · rintro ⟨p, hp, hmem, hdepth⟩
    rcases List.prefix_concat_iff.mp hp with rfl | hp
    · exact Or.inr ⟨hmem, hdepth⟩
    · exact Or.inl ⟨p, hp, hmem, hdepth⟩
  · rintro (h | ⟨hmem, hdepth⟩)
    · exact h.append [c]
    · exact ⟨_, List.prefix_rfl, hmem, hdepth⟩

/-- As long as the depth has not returned to zero, a brace is open. -/
theorem one_le_depth (hmem : '{' ∈ s) (h : ¬Closes s) : 1 ≤ depth s := by
  induction s using List.reverseRecOn with
  | nil => cases hmem
  | append_singleton s c ih =>
    by_cases hs : '{' ∈ s
    · have hle := ih hs fun hclosed => h (hclosed.append [c])
      have hne : depth (s ++ [c]) ≠ 0 := fun hzero => h (closes_concat_iff.mpr (.inr ⟨hmem, hzero⟩))
      rw [depth_concat_of_mem hs] at hne ⊢
      split_ifs at hne ⊢ <;> omega
    · obtain rfl : c = '{' := by
        rcases List.mem_append.mp hmem with hmem | hmem
        · exact absurd hmem hs
        · exact (List.mem_singleton.mp hmem).symm
      exact Int.le_of_eq (depth_concat_of_not_mem hs).symm

/-- Behind an opening brace only a semicolon in front of it keeps the body from opening. -/
theorem unopened_append_of_mem (h : '{' ∈ s) (t : List Char) :
    Unopened (s ++ t) ↔ ';' ∈ heading s := by
  rw [Unopened, heading_append_of_mem h]
  exact or_iff_right fun hnot => hnot (List.mem_append_left t h)

end Depth

/-! ## States -/

namespace BraceScan

/-- What a scan has read when it has come to a state. -/
def After (s : List Char) : BraceScan → Prop
  | seeking => '{' ∉ s ∧ ';' ∉ s
  | inside n => '{' ∈ s ∧ ';' ∉ heading s ∧ ¬Closes s ∧ depth s = n
  | closed => ';' ∉ heading s ∧ Closes s
  | refused => ';' ∈ heading s

/-- The state to which a text leads. -/
def ofText (s : List Char) : BraceScan :=
  s.foldl step seeking

private theorem after_step_seeking {s : List Char} (h : After s seeking) (c : Char) :
    After (s ++ [c]) (step seeking c) := by
  obtain ⟨hopen, hend⟩ := h
  simp only [step]
  split
  next hc =>
    subst hc
    refine ⟨List.mem_concat_self, ?_, ?_, depth_concat_of_not_mem hopen⟩
    · rw [heading, List.takeWhile_append_of_pos (bne_of_not_mem hopen)]
      exact fun h => hend (List.append_nil s ▸ h)
    · rw [closes_concat_iff, depth_concat_of_not_mem hopen]
      rintro (h | ⟨_, h⟩)
      · exact hopen h.mem
      · cases h
  next hc =>
    have hopen' : '{' ∉ s ++ [c] := by
      rw [List.mem_append, List.mem_singleton]
      exact fun h => h.elim hopen fun h => hc h.symm
    split
    next hc =>
      subst hc
      change ';' ∈ heading (s ++ [';'])
      rw [heading_of_not_mem hopen']
      exact List.mem_concat_self
    next hc =>
      refine ⟨hopen', ?_⟩
      rw [List.mem_append, List.mem_singleton]
      exact fun h => h.elim hend fun h => hc h.symm

private theorem after_step_inside {s : List Char} {n : Nat} (h : After s (inside n)) (c : Char) :
    After (s ++ [c]) (step (inside n) c) := by
  obtain ⟨hmem, hend, hopen, hdepth⟩ := h
  have hmem' : '{' ∈ s ++ [c] := List.mem_append_left [c] hmem
  have hend' : ';' ∉ heading (s ++ [c]) := by rwa [heading_append_of_mem hmem]
  have hpos := one_le_depth hmem hopen
  have hnext := depth_concat_of_mem hmem c
  -- The depth is zero behind a closing brace at depth one, and nowhere else.
  have hopen' (hne : depth (s ++ [c]) ≠ 0) : ¬Closes (s ++ [c]) := by
    rw [closes_concat_iff]
    exact fun h => h.elim hopen fun h => hne h.2
  simp only [step]
  split
  next hc =>
    rw [if_pos hc] at hnext
    exact ⟨hmem', hend', hopen' (by omega), by omega⟩
  next hc =>
    rw [if_neg hc] at hnext
    split
    next hc =>
      rw [if_pos hc] at hnext
      split
      next hn => exact ⟨hend', closes_concat_iff.mpr (.inr ⟨hmem', by omega⟩)⟩
      next hn => exact ⟨hmem', hend', hopen' (by omega), by omega⟩
    next hc =>
      rw [if_neg hc] at hnext
      exact ⟨hmem', hend', hopen' (by omega), by omega⟩

/-- A character leads to the state that describes the text with it. -/
theorem After.step {s : List Char} {state : BraceScan} (h : After s state) (c : Char) :
    After (s ++ [c]) (state.step c) := by
  cases state with
  | seeking => exact after_step_seeking h c
  | inside n => exact after_step_inside h c
  | closed =>
    obtain ⟨hend, hclosed⟩ := h
    refine ⟨?_, hclosed.append [c]⟩
    rwa [heading_append_of_mem hclosed.mem]
  | refused => exact heading_subset_append s [c] h

/-- The state to which a text leads describes the text. -/
theorem after_ofText (s : List Char) : After s (ofText s) := by
  induction s using List.reverseRecOn with
  | nil => exact ⟨List.not_mem_nil, List.not_mem_nil⟩
  | append_singleton s c ih =>
    rw [ofText, List.foldl_append]
    exact ih.step c

/-- A line leads on to the state of the text with its code. -/
theorem readLine_ofText (s line : List Char) :
    (ofText s).readLine line = ofText (s ++ stripLiterals line) := by
  rw [ofText, ofText, List.foldl_append]
  rfl

end BraceScan

/-! ## Lines -/

/-- The code of lines, without literals and comments. -/
def codeOf (lines : List (List Char)) : List Char :=
  lines.flatMap stripLiterals

/-- The code of the first `n` lines from index `start` on. -/
def codeFrom (code : List (List Char)) (start n : Nat) : List Char :=
  codeOf ((code.drop start).take n)

/-- Fewer lines are where more lines begin. -/
theorem isPrefix_codeFrom (code : List (List Char)) (start : Nat) {n k : Nat} (h : n ≤ k) :
    codeFrom code start n <+: codeFrom code start k := by
  obtain ⟨rest, hrest⟩ := List.take_prefix_take_left (l := code.drop start) h
  rw [codeFrom, codeFrom, ← hrest, codeOf, codeOf, List.flatMap_append]
  exact List.prefix_append _ _

/-- What a search gives that has read the text `s` before the lines `rest`. -/
private def Measured (lookahead read : Nat) (s : List Char) (rest : List (List Char)) :
    Option Nat → Prop
  | none => Unopened (s ++ codeOf (rest.take (lookahead + 1 - read)))
  | some n => ¬Unopened (s ++ codeOf (rest.take (lookahead + 1 - read))) ∧
      ∃ k ≤ rest.length, n = read + k ∧
        (Closes (s ++ codeOf (rest.take k)) ∨ k = rest.length) ∧
        ∀ j < k, ¬Closes (s ++ codeOf (rest.take j))

section Measured

variable {lookahead read : Nat} {s line : List Char} {rest : List (List Char)}

private theorem append_codeOf_zero (s : List Char) (rest : List (List Char)) :
    s ++ codeOf (rest.take 0) = s :=
  List.append_nil s

private theorem append_codeOf_cons (n : Nat) :
    s ++ codeOf ((line :: rest).take (n + 1)) = s ++ stripLiterals line ++ codeOf (rest.take n) :=
  (List.append_assoc ..).symm

/-- The lines within reach are the same after one more line was read. -/
private theorem unopened_reach_cons (hread : '{' ∉ s → read ≤ lookahead) :
    Unopened (s ++ codeOf ((line :: rest).take (lookahead + 1 - read))) ↔
      Unopened (s ++ stripLiterals line ++ codeOf (rest.take (lookahead - read))) := by
  by_cases hle : read ≤ lookahead
  · rw [Nat.succ_sub hle, append_codeOf_cons]
  · have hmem : '{' ∈ s := by
      by_contra h
      exact hle (hread h)
    rw [List.append_assoc s, unopened_append_of_mem hmem, unopened_append_of_mem hmem]

/-- A line that ends no search leaves it to the lines behind. -/
private theorem Measured.cons {result : Option Nat} (hs : ¬Closes s)
    (hread : '{' ∉ s → read ≤ lookahead)
    (h : Measured lookahead (read + 1) (s ++ stripLiterals line) rest result) :
    Measured lookahead read s (line :: rest) result := by
  cases result with
  | none =>
    rw [Measured, Nat.add_sub_add_right] at h
    exact (unopened_reach_cons hread).mpr h
  | some n =>
    rw [Measured, Nat.add_sub_add_right] at h
    obtain ⟨hopen, k, hk, rfl, hcloses, hbefore⟩ := h
    refine ⟨mt (unopened_reach_cons hread).mp hopen, k + 1, Nat.succ_le_succ hk, by omega, ?_, ?_⟩
    · rw [append_codeOf_cons]
      exact hcloses.imp id (congrArg (· + 1))
    · rintro (_ | j) hj
      · rwa [append_codeOf_zero]
      · rw [append_codeOf_cons]
        exact hbefore j (Nat.lt_of_succ_lt_succ hj)

/-- Without lines, a body that has been opened ends with the text. -/
private theorem measured_nil (hs : ¬Closes s) :
    Measured lookahead read s [] (braceLength lookahead (.ofText s) read []) := by
  have hnil (n : Nat) : s ++ codeOf (([] : List (List Char)).take n) = s := by
    rw [List.take_nil]
    exact List.append_nil s
  have hafter := BraceScan.after_ofText s
  cases hstate : BraceScan.ofText s with
  | inside n =>
    rw [hstate] at hafter
    obtain ⟨hmem, hend, _, _⟩ := hafter
    refine ⟨?_, 0, Nat.le_refl 0, rfl, .inr rfl, nofun⟩
    rw [hnil]
    exact fun h => h.elim (fun h => h hmem) hend
  | closed =>
    rw [hstate] at hafter
    exact absurd hafter.2 hs
  | seeking =>
    rw [hstate] at hafter
    exact .inl ((hnil _).symm ▸ hafter.1)
  | refused =>
    rw [hstate] at hafter
    exact .inr ((hnil _).symm ▸ hafter)

/-- The search goes on until the depth returns to zero, as long as a body can open. -/
private theorem measured_braceLength (hs : ¬Closes s) (hread : '{' ∉ s → read ≤ lookahead) :
    Measured lookahead read s rest (braceLength lookahead (.ofText s) read rest) := by
  induction rest generalizing s read with
  | nil => exact measured_nil hs
  | cons line rest ih =>
    have hafter := BraceScan.after_ofText (s ++ stripLiterals line)
    rw [braceLength, BraceScan.readLine_ofText]
    cases hstate : BraceScan.ofText (s ++ stripLiterals line) with
    | closed =>
      rw [hstate] at hafter
      obtain ⟨hend, hcloses⟩ := hafter
      refine ⟨?_, 1, Nat.succ_le_succ (Nat.zero_le _), rfl, .inl ?_, ?_⟩
      · rw [unopened_reach_cons hread, unopened_append_of_mem hcloses.mem]
        exact hend
      · rw [append_codeOf_cons]
        exact hcloses.append _
      · intro j hj
        obtain rfl := Nat.lt_one_iff.mp hj
        rwa [append_codeOf_zero]
    | refused =>
      rw [hstate] at hafter
      exact (unopened_reach_cons hread).mpr (.inr (heading_subset_append _ _ hafter))
    | inside n =>
      rw [hstate] at hafter
      obtain ⟨hmem, _, hopen, _⟩ := hafter
      have hrest : Measured lookahead (read + 1) _ rest _ := ih hopen fun h => absurd hmem h
      rw [hstate] at hrest
      exact hrest.cons hs hread
    | seeking =>
      rw [hstate] at hafter
      obtain ⟨hmem, _⟩ := hafter
      have hle := hread fun h => hmem (List.mem_append_left _ h)
      simp only []
      split
      next hlast =>
        refine (unopened_reach_cons hread).mpr (.inl ?_)
        rw [Nat.sub_eq_zero_of_le hlast]
        rwa [append_codeOf_zero]
      next hlast =>
        have hrest : Measured lookahead (read + 1) _ rest _ :=
          ih (fun h => hmem h.mem) fun _ => Nat.not_le.mp hlast
        rw [hstate] at hrest
        exact hrest.cons hs hread

end Measured

/-! ## Spans -/

/-- The lines from index `start` to index `stop` hold a body in braces that begins at the first
opening brace. -/
structure IsBraceBody (code : List (List Char)) (start stop : Nat) : Prop where
  /-- There is a line. -/
  start_le : start ≤ stop
  /-- No line is behind the last of the text. -/
  stop_lt : stop < code.length
  /-- The depth returns to zero on the last line, or this is the last line of the text. -/
  closes : Closes (codeFrom code start (stop + 1 - start)) ∨ stop + 1 = code.length
  /-- The depth has not returned to zero before the last line. -/
  not_closes : ∀ n < stop + 1 - start, ¬Closes (codeFrom code start n)
  /-- At the end of every line between the first brace and the last line a brace is open. -/
  one_le_depth : ∀ n < stop + 1 - start, '{' ∈ codeFrom code start n →
    1 ≤ depth (codeFrom code start n)

variable {code : List (List Char)} {start lookahead : Nat} {span : Span}

/-- A body has one end. -/
theorem IsBraceBody.stop_eq {stop stop' : Nat} (h : IsBraceBody code start stop)
    (h' : IsBraceBody code start stop') : stop = stop' := by
  have key {stop stop' : Nat} (h : IsBraceBody code start stop)
      (h' : IsBraceBody code start stop') : stop' ≤ stop := by
    have hstart := h.start_le
    have hlt := h'.stop_lt
    by_contra hne
    rcases h.closes with hcloses | hlast
    · exact h'.not_closes _ (by omega) hcloses
    · omega
  exact Nat.le_antisymm (key h' h) (key h h')

/-- What the search for a body in braces finds. -/
private theorem measured_braceBody? (code : List (List Char)) (start lookahead : Nat) :
    match braceBody? code start lookahead with
    | none => Unopened (codeFrom code start (lookahead + 1))
    | some span => ¬Unopened (codeFrom code start (lookahead + 1)) ∧
        ∃ stop, IsBraceBody code start stop ∧ span = .ofLines code start stop := by
  have h : Measured lookahead 0 [] (code.drop start)
      (braceLength lookahead .seeking 0 (code.drop start)) :=
    measured_braceLength (s := []) (fun h => nomatch h.mem) fun _ => Nat.zero_le lookahead
  rw [braceBody?]
  cases hlength : braceLength lookahead .seeking 0 (code.drop start) with
  | none =>
    rw [hlength] at h
    exact h
  | some n =>
    rw [hlength] at h
    obtain ⟨hopen, k, hk, hn, hcloses, hbefore⟩ := h
    rw [Nat.zero_add] at hn
    subst hn
    rw [List.length_drop] at hk hcloses
    have hpos := braceLength_pos hlength
    have hcount : start + n - 1 + 1 - start = n := by omega
    refine ⟨hopen, start + n - 1, ⟨by omega, by omega, ?_, ?_, ?_⟩, rfl⟩
    · rw [hcount]
      exact hcloses.imp id (by omega)
    · rw [hcount]
      exact hbefore
    · rw [hcount]
      exact fun j hj hmem => one_le_depth hmem (hbefore j hj)

/-- There is no body exactly when none opens in the lines within reach. -/
theorem braceBody?_eq_none_iff :
    braceBody? code start lookahead = none ↔ Unopened (codeFrom code start (lookahead + 1)) := by
  have h := measured_braceBody? code start lookahead
  cases hbody : braceBody? code start lookahead with
  | none =>
    rw [hbody] at h
    exact iff_of_true rfl h
  | some span =>
    rw [hbody] at h
    exact iff_of_false nofun h.1

/-- A span that is found is that of the one body. -/
theorem braceBody?_eq_some_iff :
    braceBody? code start lookahead = some span ↔
      ¬Unopened (codeFrom code start (lookahead + 1)) ∧
        ∃ stop, IsBraceBody code start stop ∧ span = .ofLines code start stop := by
  have h := measured_braceBody? code start lookahead
  cases hbody : braceBody? code start lookahead with
  | none =>
    rw [hbody] at h
    exact iff_of_false nofun fun hspan => hspan.1 h
  | some found =>
    rw [hbody] at h
    obtain ⟨hopen, stop, hstop, rfl⟩ := h
    constructor
    · intro hspan
      exact ⟨hopen, stop, hstop, (Option.some.inj hspan).symm⟩
    · rintro ⟨_, stop', hstop', rfl⟩
      rw [hstop.stop_eq hstop']

/-- The search for a body in braces fails exactly when no brace is within reach or a semicolon is
before the first one. Otherwise its span ends on the line where the depth, counted from the first
brace, first returns to zero, or with the text. -/
theorem bodies_end_at_depth_zero (code : List (List Char)) (start lookahead : Nat) :
    (braceBody? code start lookahead = none ↔
      Unopened (codeFrom code start (lookahead + 1))) ∧
    ∀ span, braceBody? code start lookahead = some span ↔
      ¬Unopened (codeFrom code start (lookahead + 1)) ∧
        ∃ stop, IsBraceBody code start stop ∧
          span = ⟨start + 1, stop + 1, joinLines ((code.drop start).take (stop + 1 - start))⟩ :=
  ⟨braceBody?_eq_none_iff, fun _ => braceBody?_eq_some_iff⟩

/-- A closing brace inside a literal ends no body. -/
example :
    (braceBody? ["void f()".toList, "\x7b log(\"\x7d\");".toList, "\x7d".toList, "\x7d".toList] 0
      3).map (·.last) = some 3 := by
  decide +kernel

end Adjudicator.Code
