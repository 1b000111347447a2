import Adjudicator.Code.Arguments
import Adjudicator.Proofs.Text.Lines
import Adjudicator.Proofs.Text.Trim
import Adjudicator.Value.Source
import Mathlib.Data.List.Forall2

/-!
# Contents of literals

Two texts are alike outside literals when they differ only in characters that are read inside an
open literal and that are neither quotes nor backslashes. Main statement: of two such texts the
stripped lines are the same, and so is all that is read off stripped lines, which are the balance
of braces, the bodies in braces, the errors that are raised and the values of a body.
-/

namespace Adjudicator.Code

open Text

variable {quote : Option Char} {prev prev' c d : Char} {a b s t : List Char}

/-! ## Alike texts -/

/-- The characters of a line, each with whether it is read inside an open literal. -/
def scannedFrom (quote : Option Char) (prev : Char) : List Char → List (Char × Bool)
  | [] => []
  | c :: rest =>
    match quote with
    | some q =>
      if c = '\\' then
        match rest with
        | [] => [(c, true)]
        | d :: rest => (c, true) :: (d, true) :: scannedFrom quote c rest
      else (c, true) :: scannedFrom (if c = q then none else quote) c rest
    | none =>
      if c = '/' ∧ rest.head? = some '/' then (c :: rest).map (·, false)
      else (c, false) :: scannedFrom (opened? prev c rest) c rest

/-- A whole line, read from its start. -/
def scanned (line : List Char) : List (Char × Bool) :=
  scannedFrom none (Char.ofNat 0) line

/-- Whether a character inside a literal neither ends it nor escapes another. -/
def isContent (c : Char) : Bool :=
  !ListScan.isQuote c && c != '\\'

/-- A character may stand for another when both are content of a literal. -/
def Replaceable (cell : Char × Bool) (d : Char) : Prop :=
  cell.1 = d ∨ cell.2 = true ∧ isContent cell.1 = true ∧ isContent d = true

/-- Lines that differ only in content of literals. -/
def AlikeLine (a b : List Char) : Prop :=
  List.Forall₂ Replaceable (scanned a) b

/-- Texts that differ only in content of literals between their line feeds. -/
def Alike (a b : List Char) : Prop :=
  List.Forall₂ AlikeLine (a.splitOn '\n') (b.splitOn '\n')

instance (cell : Char × Bool) (d : Char) : Decidable (Replaceable cell d) :=
  inferInstanceAs (Decidable (_ ∨ _))

instance (a b : List Char) : Decidable (AlikeLine a b) :=
  inferInstanceAs (Decidable (List.Forall₂ Replaceable (scanned a) b))

instance (s t : List Char) : Decidable (Alike s t) :=
  inferInstanceAs (Decidable (List.Forall₂ AlikeLine _ _))

/-- Every character is read once. -/
theorem map_fst_scannedFrom (quote : Option Char) (prev : Char) (s : List Char) :
    (scannedFrom quote prev s).map Prod.fst = s := by
  fun_induction scannedFrom quote prev s with
  | case1 => rfl
  | case2 => rfl
  | case3 _ _ _ _ ih => rw [List.map_cons, List.map_cons, ih]
  | case4 _ _ _ _ _ ih => rw [List.map_cons, ih]
  | case5 => rw [List.map_map, Function.comp_def, List.map_id']
  | case6 _ _ _ _ ih => rw [List.map_cons, ih]

/-! ## Stripped lines -/

/-- What stands outside literals is not replaced. -/
theorem Replaceable.eq_of_outside (h : Replaceable (c, false) d) : d = c := by
  rcases h with h | ⟨h, -⟩
  · exact h.symm
  · cases h

/-- What is no content is not replaced. -/
theorem Replaceable.eq_of_not_content {inside : Bool} (h : Replaceable (c, inside) d)
    (hc : isContent c = false) : d = c := by
  rcases h with h | ⟨-, h, -⟩
  · exact h.symm
  · rw [hc] at h
    cases h

/-- A quote is no content of a literal. -/
theorem isContent_of_isQuote (h : ListScan.isQuote c = true) : isContent c = false := by
  rw [isContent, h]
  rfl

/-- What is read inside a literal may be put back. -/
theorem Replaceable.symm_of_inside (h : Replaceable (c, true) d) : Replaceable (d, true) c := by
  rcases h with h | ⟨-, hc, hd⟩
  · exact .inl h.symm
  · exact .inr ⟨rfl, hd, hc⟩

/-- No other character becomes one that is no content. -/
theorem Replaceable.eq_iff {inside : Bool} (h : Replaceable (c, inside) d) {k : Char}
    (hk : isContent k = false) : d = k ↔ c = k := by
  rcases h with h | ⟨-, hc, hd⟩
  · rw [← h]
  · refine iff_of_false ?_ ?_
    · rintro rfl
      rw [hk] at hd
      cases hd
    · rintro rfl
      rw [hk] at hc
      cases hc

/-- A single quote stands among characters when it stands among their replacements. -/
theorem contains_congr {cells : List (Char × Bool)} (h : List.Forall₂ Replaceable cells b) :
    b.contains '\'' = (cells.map Prod.fst).contains '\'' := by
  induction h with
  | nil => rfl
  | @cons cell d cells b hd _ ih =>
    have hfirst : ('\'' == d) = ('\'' == cell.1) := by
      rw [Bool.eq_iff_iff, beq_iff_eq, beq_iff_eq, eq_comm, hd.eq_iff (by decide), eq_comm]
    rw [List.map_cons, List.contains_cons, List.contains_cons, ih, hfirst]

/-- Replaced content opens no other literal. -/
theorem opened?_congr {rest : List Char} {cells : List (Char × Bool)}
    (hcells : cells.map Prod.fst = rest) (h : List.Forall₂ Replaceable cells b) :
    opened? prev c b = opened? prev c rest := by
  have hnear := contains_congr (List.forall₂_take 3 h)
  rw [List.map_take, hcells] at hnear
  rw [opened?, opened?, marksLifetime, marksLifetime, hnear, contains_congr h, hcells]

/-- A literal is opened by a quote, which also ends it. -/
theorem of_opened? {rest : List Char} (h : opened? prev c rest = some d) :
    d = c ∧ ListScan.isQuote d = true := by
  rw [opened?] at h
  split at h
  next hc =>
    obtain rfl := Option.some.inj h
    rcases hc with rfl | rfl <;> exact ⟨rfl, rfl⟩
  next =>
    split at h
    next hc =>
      obtain rfl := Option.some.inj h
      rw [hc.1]
      exact ⟨rfl, rfl⟩
    next => cases h

/-- Outside literals the next character is outside literals. -/
theorem head?_eq_of_outside {rest : List Char}
    (h : List.Forall₂ Replaceable (scannedFrom none prev rest) b) : b.head? = rest.head? := by
  cases rest with
  | nil =>
    rw [scannedFrom, List.forall₂_nil_left_iff] at h
    rw [h]
  | cons c rest =>
    obtain ⟨cells, hcells⟩ : ∃ cells, scannedFrom none prev (c :: rest) = (c, false) :: cells := by
      rw [scannedFrom]
      split
      · exact ⟨_, rfl⟩
      · exact ⟨_, rfl⟩
    rw [hcells] at h
    obtain ⟨d, b, hd, -, rfl⟩ := List.forall₂_cons_left_iff.mp h
    rw [hd.eq_of_outside, List.head?_cons, List.head?_cons]

/-- Inside a literal nothing is kept but the quote that ends it. -/
theorem stripFrom_inside {q : Char} (hc : c ≠ '\\') (rest : List Char) :
    stripFrom (some q) prev (c :: rest) =
      if c = q then c :: stripFrom none c rest else stripFrom (some q) c rest :=
  (stripFrom.eq_def (some q) prev (c :: rest)).trans (if_neg hc)

/-- Inside a literal a character is read up to the quote that ends it. -/
theorem scannedFrom_inside {q : Char} (hc : c ≠ '\\') (rest : List Char) :
    scannedFrom (some q) prev (c :: rest) =
      (c, true) :: scannedFrom (if c = q then none else some q) c rest :=
  (scannedFrom.eq_def (some q) prev (c :: rest)).trans (if_neg hc)

/-- Replaced content leaves a stripped text as it is, and may be put back. -/
theorem stripFrom_congr (h : List.Forall₂ Replaceable (scannedFrom quote prev a) b)
    (hquote : ∀ q ∈ quote, ListScan.isQuote q = true) (hprev : quote = none → prev' = prev) :
    stripFrom quote prev' b = stripFrom quote prev a ∧
      List.Forall₂ Replaceable (scannedFrom quote prev' b) a := by
  fun_induction scannedFrom quote prev a generalizing b prev' with
  | case1 =>
    rw [List.forall₂_nil_left_iff.mp h]
    exact ⟨rfl, .nil⟩
  | case2 =>
    obtain ⟨d, _, hd, hnil, rfl⟩ := List.forall₂_cons_left_iff.mp h
    rw [hd.eq_of_not_content rfl, List.forall₂_nil_left_iff.mp hnil]
    exact ⟨rfl, .cons (.inl rfl) .nil⟩
  | case3 prev q x rest ih =>
    obtain ⟨d, _, hd, hmore, rfl⟩ := List.forall₂_cons_left_iff.mp h
    obtain ⟨y, b, hy, hrest, rfl⟩ := List.forall₂_cons_left_iff.mp hmore
    have hinside {prev : Char} : some q = none → '\\' = prev := nofun
    obtain ⟨hstrip, hback⟩ := ih hrest hquote hinside
    rw [hd.eq_of_not_content rfl]
    exact ⟨hstrip, .cons (.inl rfl) (.cons hy.symm_of_inside hback)⟩
  | case4 prev c rest q hc ih =>
    obtain ⟨d, b, hd, hrest, rfl⟩ := List.forall₂_cons_left_iff.mp h
    have hend : d = q ↔ c = q := hd.eq_iff (isContent_of_isQuote (hquote q rfl))
    have hd' : d ≠ '\\' := mt (hd.eq_iff rfl).mp hc
    rw [stripFrom_inside hc, stripFrom_inside hd', scannedFrom_inside hd']
    by_cases hq : c = q
    · obtain rfl : d = c := hend.mpr hq ▸ hq.symm
      subst hq
      rw [if_pos rfl] at ih hrest
      obtain ⟨hstrip, hback⟩ := ih hrest nofun fun _ => rfl
      rw [if_pos rfl, if_pos rfl, if_pos rfl, hstrip]
      exact ⟨rfl, .cons (.inl rfl) hback⟩
    · rw [if_neg hq] at ih hrest
      have hinside : some q = none → d = c := nofun
      obtain ⟨hstrip, hback⟩ := ih hrest hquote hinside
      have hq' : d ≠ q := mt hend.mp hq
      rw [if_neg hq, if_neg hq', if_neg hq']
      exact ⟨hstrip, .cons hd.symm_of_inside hback⟩
  | case5 prev c rest hc =>
    rw [List.forall₂_map_left_iff] at h
    have heq : c :: rest = b := by
      rw [← List.forall₂_eq_eq_eq]
      exact h.imp fun _ _ hd => hd.eq_of_outside.symm
    rw [← heq, scannedFrom, if_pos hc, List.forall₂_map_left_iff, List.forall₂_same]
    exact ⟨by rw [stripFrom, stripFrom, if_pos hc, if_pos hc], fun _ _ => .inl rfl⟩
  | case6 prev c rest hc ih =>
    obtain ⟨d, b, hd, hrest, rfl⟩ := List.forall₂_cons_left_iff.mp h
    obtain rfl := hd.eq_of_outside
    obtain rfl := hprev rfl
    have hopened : opened? prev' d b = opened? prev' d rest :=
      opened?_congr (map_fst_scannedFrom _ _ rest) hrest
    -- a slash opens no literal, so what follows it is read outside literals
    have hcomment : ¬(d = '/' ∧ b.head? = some '/') := by
      rintro ⟨rfl, hhead⟩
      have hnone : opened? prev' '/' rest = none := rfl
      rw [hnone] at hrest
      exact hc ⟨rfl, (head?_eq_of_outside hrest).symm.trans hhead⟩
    obtain ⟨hstrip, hback⟩ :=
      ih hrest (fun _ hq => (of_opened? hq).2) fun _ => rfl
    rw [stripFrom, stripFrom, scannedFrom, if_neg hc, if_neg hcomment, if_neg hcomment, hopened]
    exact ⟨congrArg (d :: ·) hstrip, .cons (.inl rfl) hback⟩

/-- Alike lines have the same code. -/
theorem AlikeLine.stripLiterals_eq (h : AlikeLine a b) : stripLiterals b = stripLiterals a :=
  (stripFrom_congr h nofun fun _ => rfl).1

/-- Lines differ only in content of literals both ways. -/
theorem AlikeLine.symm (h : AlikeLine a b) : AlikeLine b a :=
  (stripFrom_congr h nofun fun _ => rfl).2

/-- Lines that differ only in content of literals are as long. -/
theorem AlikeLine.length_eq (h : AlikeLine a b) : b.length = a.length := by
  rw [← List.Forall₂.length_eq h, ← List.length_map Prod.fst, scanned, map_fst_scannedFrom]

/-! ## Line ends -/

/-- A carriage return at the end opens no literal. -/
theorem opened?_concat_return (rest : List Char) :
    opened? prev c (rest ++ ['\r']) = opened? prev c rest := by
  have hcontains (s : List Char) : (s ++ ['\r']).contains '\'' = s.contains '\'' := by
    rw [List.contains_append]
    exact Bool.or_false _
  have hnear : ((rest ++ ['\r']).take 3).contains '\'' = (rest.take 3).contains '\'' := by
    rw [List.take_append]
    cases 3 - rest.length with
    | zero => rw [List.take_zero, List.append_nil]
    | succ n =>
      rw [List.take_succ_cons, List.take_nil]
      exact hcontains (rest.take 3)
  rw [opened?, opened?, marksLifetime, marksLifetime, hnear, hcontains]

/-- A carriage return at the end changes nothing in front of it, and inside a literal it is no
code. -/
theorem scannedFrom_concat_return (hquote : ∀ q ∈ quote, ListScan.isQuote q = true)
    (s : List Char) : ∃ inside,
      scannedFrom quote prev (s ++ ['\r']) = scannedFrom quote prev s ++ [('\r', inside)] ∧
        (inside = true → stripFrom quote prev (s ++ ['\r']) = stripFrom quote prev s) := by
  have hne (q : Char) (hq : ListScan.isQuote q = true) : '\r' ≠ q := by
    rintro rfl
    cases hq
  fun_induction scannedFrom quote prev s with
  | case1 quote =>
    cases quote with
    | none => exact ⟨false, rfl, nofun⟩
    | some q =>
      refine ⟨true, rfl, fun _ => ?_⟩
      rw [List.nil_append, stripFrom_inside (by decide), if_neg (hne q (hquote q rfl))]
      rfl
  | case2 => exact ⟨true, rfl, fun _ => rfl⟩
  | case3 prev q x rest ih =>
    obtain ⟨inside, hcells, hstrip⟩ := ih hquote
    exact ⟨inside, congrArg (('\\', true) :: (x, true) :: ·) hcells, hstrip⟩
  | case4 prev c rest q hc ih =>
    have hafter : ∀ q' ∈ if c = q then none else some q, ListScan.isQuote q' = true := by
      intro q' hq'
      split at hq'
      · cases hq'
      · exact hquote q' hq'
    obtain ⟨inside, hcells, hstrip⟩ := ih hafter
    refine ⟨inside, ?_, fun hinside => ?_⟩
    · rw [List.cons_append, scannedFrom_inside hc, hcells, List.cons_append]
    · have hrest := hstrip hinside
      rw [List.cons_append, stripFrom_inside hc, stripFrom_inside hc]
      by_cases hq : c = q
      · rw [if_pos hq] at hrest
        rw [if_pos hq, if_pos hq, hrest]
      · rw [if_neg hq] at hrest
        rw [if_neg hq, if_neg hq, hrest]
  | case5 prev c rest hc =>
    have hc' : c = '/' ∧ (rest ++ ['\r']).head? = some '/' := by
      rw [List.head?_append, hc.2]
      exact ⟨hc.1, rfl⟩
    refine ⟨false, ?_, nofun⟩
    rw [List.cons_append, scannedFrom, if_pos hc', ← List.cons_append, List.map_append]
    rfl
  | case6 prev c rest hc ih =>
    have hc' : ¬(c = '/' ∧ (rest ++ ['\r']).head? = some '/') := by
      rintro ⟨rfl, hhead⟩
      cases rest with
      | nil => cases hhead
      | cons x rest => exact hc ⟨rfl, hhead⟩
    obtain ⟨inside, hcells, hstrip⟩ := ih fun _ hq => (of_opened? hq).2
    refine ⟨inside, ?_, fun hinside => ?_⟩
    · rw [List.cons_append, scannedFrom, if_neg hc', opened?_concat_return, hcells,
        List.cons_append]
    · rw [List.cons_append, stripFrom, stripFrom, if_neg hc, if_neg hc', opened?_concat_return,
        hstrip hinside]

private theorem exists_concat_of_forall₂ {α β : Type} {R : α → β → Prop} {xs : List α} {x : α}
    {ys : List β} (h : List.Forall₂ R (xs ++ [x]) ys) :
    ∃ zs y, ys = zs ++ [y] ∧ List.Forall₂ R xs zs ∧ R x y := by
  rw [← List.forall₂_reverse_iff, List.reverse_concat] at h
  obtain ⟨y, zs, hy, hzs, hys⟩ := List.forall₂_cons_left_iff.mp h
  refine ⟨zs.reverse, y, ?_, ?_, hy⟩
  · rw [← List.reverse_reverse ys, hys, List.reverse_cons]
  · rw [← List.forall₂_reverse_iff, List.reverse_reverse]
    exact hzs

/-- A piece that is alike to a line with its carriage return has the same code. -/
theorem AlikeLine.stripLiterals_of_return (h : AlikeLine (s ++ ['\r']) b) :
    stripLiterals (lineOf b) = stripLiterals s := by
  obtain ⟨inside, hcells, hstrip⟩ : ∃ inside,
      scannedFrom none (Char.ofNat 0) (s ++ ['\r']) =
        scannedFrom none (Char.ofNat 0) s ++ [('\r', inside)] ∧
      (inside = true → stripFrom none (Char.ofNat 0) (s ++ ['\r']) =
        stripFrom none (Char.ofNat 0) s) :=
    @scannedFrom_concat_return none (Char.ofNat 0) nofun s
  have hb := h.stripLiterals_eq
  rw [AlikeLine, scanned, hcells] at h
  obtain ⟨t, d, rfl, ht, hd⟩ := exists_concat_of_forall₂ h
  by_cases hreturn : d = '\r'
  · rw [hreturn, lineOf_concat_return]
    exact AlikeLine.stripLiterals_eq ht
  · have hinside : inside = true := by
      rcases hd with hd | hd
      · exact absurd hd.symm hreturn
      · exact hd.1
    have hlast : (t ++ [d]).getLast? ≠ some '\r' := by
      rw [List.getLast?_concat]
      exact mt Option.some.inj hreturn
    rw [lineOf_eq_self hlast, hb]
    exact hstrip hinside

/-- Alike pieces of texts are lines with the same code. -/
theorem AlikeLine.stripLiterals_lineOf (h : AlikeLine a b) :
    stripLiterals (lineOf b) = stripLiterals (lineOf a) := by
  by_cases ha : a.getLast? = some '\r'
  · obtain ⟨s, rfl⟩ := List.getLast?_eq_some_iff.mp ha
    rw [lineOf_concat_return]
    exact h.stripLiterals_of_return
  · by_cases hb : b.getLast? = some '\r'
    · obtain ⟨t, rfl⟩ := List.getLast?_eq_some_iff.mp hb
      rw [lineOf_concat_return]
      exact h.symm.stripLiterals_of_return.symm
    · rw [lineOf_eq_self ha, lineOf_eq_self hb]
      exact h.stripLiterals_eq

/-! ## Comments -/

/-- A literal begins at the same place of alike lines. -/
theorem AlikeLine.eq_or_exists_quote (h : AlikeLine a b) :
    a = b ∨
      ∃ front k x y, ListScan.isQuote k = true ∧ a = front ++ k :: x ∧ b = front ++ k :: y := by
  rw [AlikeLine, scanned] at h
  generalize Char.ofNat 0 = prev at h
  induction a generalizing prev b with
  | nil => exact .inl (List.forall₂_nil_left_iff.mp h).symm
  | cons c rest ih =>
    rw [scannedFrom] at h
    split at h
    next hc =>
      rw [List.forall₂_map_left_iff] at h
      refine .inl ?_
      rw [← List.forall₂_eq_eq_eq]
      exact h.imp fun _ _ hd => hd.eq_of_outside.symm
    next =>
      obtain ⟨d, t, hd, ht, rfl⟩ := List.forall₂_cons_left_iff.mp h
      obtain rfl := hd.eq_of_outside
      cases hopened : opened? prev d rest with
      | none =>
        rw [hopened] at ht
        rcases ih _ ht with rfl | ⟨front, k, x, y, hk, rfl, rfl⟩
        · exact .inl rfl
        · exact .inr ⟨d :: front, k, x, y, hk, rfl, rfl⟩
      | some q =>
        obtain ⟨rfl, hq⟩ := of_opened? hopened
        exact .inr ⟨[], q, rest, t, hq, rfl, rfl⟩

/-- Two characters tell whether a line is a comment. -/
theorem isComment_cons_cons (c d : Char) (s : List Char) :
    isComment (c :: d :: s) =
      ((c == '/' && (d == '/' || d == '*')) || c == '*' || (c == '#' && d != '[')) := by
  unfold isComment
  split <;> simp_all
  next hnot h =>
    rintro rfl
    exact hnot _ h.2.symm

/-- A line that begins with a quote is no comment. -/
theorem isComment_of_isQuote {k : Char} (hk : ListScan.isQuote k = true) (s : List Char) :
    isComment (k :: s) = false := by
  simp only [ListScan.isQuote, Bool.or_eq_true, beq_iff_eq] at hk
  rcases hk with (rfl | rfl) | rfl <;> rfl

/-- Whether a line is a comment does not depend on what stands behind a quote. -/
theorem isComment_append {k : Char} (hk : ListScan.isQuote k = true) (front x y : List Char) :
    isComment (front ++ k :: x) = isComment (front ++ k :: y) := by
  rcases front with _ | ⟨c, _ | ⟨d, front⟩⟩
  · exact (isComment_of_isQuote hk x).trans (isComment_of_isQuote hk y).symm
  · exact (isComment_cons_cons c k x).trans (isComment_cons_cons c k y).symm
  · exact (isComment_cons_cons c d _).trans (isComment_cons_cons c d _).symm

/-- Trimming stops at a quote. -/
theorem exists_trim_eq {k : Char} (hk : ListScan.isQuote k = true) (front x : List Char) :
    ∃ z, trim (front ++ k :: x) = front.dropWhile isBlank ++ k :: z := by
  have hblank : isBlank k = false := by
    simp only [ListScan.isQuote, Bool.or_eq_true, beq_iff_eq] at hk
    rcases hk with (rfl | rfl) | rfl <;> decide
  have hstart : trimStart (front ++ k :: x) = front.dropWhile isBlank ++ k :: x := by
    rw [trimStart, List.dropWhile_append]
    split
    next hempty =>
      rw [List.isEmpty_iff.mp hempty, List.dropWhile_cons, hblank]
      rfl
    next => rfl
  have hend (s : List Char) : ∃ z, trimEnd (s ++ k :: x) = s ++ k :: z := by
    refine ⟨(x.reverse.dropWhile isBlank).reverse, ?_⟩
    rw [trimEnd, dropEndWhile, List.reverse_append, List.reverse_cons, List.append_assoc,
      List.dropWhile_append]
    split
    next hempty =>
      rw [List.isEmpty_iff.mp hempty, List.singleton_append, List.dropWhile_cons, hblank,
        List.reverse_nil, if_neg Bool.false_ne_true, List.reverse_cons, List.reverse_reverse]
    next =>
      rw [List.reverse_append, List.singleton_append, List.reverse_cons, List.reverse_reverse,
        List.append_assoc, List.singleton_append]
  rw [trim, hstart]
  exact hend _

/-- The carriage return of a line is trimmed off it. -/
theorem trim_lineOf (piece : List Char) : trim (lineOf piece) = trim piece := by
  by_cases h : piece.getLast? = some '\r'
  · obtain ⟨s, rfl⟩ := List.getLast?_eq_some_iff.mp h
    rw [lineOf_concat_return]
    exact (trim_append_blanks (List.forall_mem_singleton.mpr rfl) s).symm
  · rw [lineOf_eq_self h]

/-! ## What is read off lines -/

/-- Lines of which the code is the same, and which are comments or blank alike. -/
structure SameCode (a b : List Char) : Prop where
  /-- The code is the same. -/
  stripped : stripLiterals b = stripLiterals a
  /-- Both are comments or none is. -/
  comment : isComment (trim b) = isComment (trim a)
  /-- Both are blank or none is. -/
  empty : (trim b).isEmpty = (trim a).isEmpty

/-- Lines that differ only in content of literals have the same code. -/
theorem AlikeLine.sameCode (h : AlikeLine a b) : SameCode a b := by
  have htrim : trim a = trim b ∨ ∃ front k x y, ListScan.isQuote k = true ∧
      trim a = front ++ k :: x ∧ trim b = front ++ k :: y := by
    obtain rfl | ⟨front, k, x, y, hk, rfl, rfl⟩ := h.eq_or_exists_quote
    · exact .inl rfl
    · obtain ⟨x, hx⟩ := exists_trim_eq hk front x
      obtain ⟨y, hy⟩ := exists_trim_eq hk front y
      exact .inr ⟨_, k, x, y, hk, hx, hy⟩
  refine ⟨h.stripLiterals_eq, ?comment, ?empty⟩
  case comment =>
    obtain htrim | ⟨front, k, x, y, hk, ha, hb⟩ := htrim
    · rw [htrim]
    · rw [ha, hb]
      exact isComment_append hk front y x
  case empty =>
    obtain htrim | ⟨front, k, x, y, -, ha, hb⟩ := htrim
    · rw [htrim]
    · have hne (z : List Char) : (front ++ k :: z).isEmpty = false :=
        List.isEmpty_eq_false_iff.mpr
          (List.append_ne_nil_of_right_ne_nil front (List.cons_ne_nil k z))
      rw [ha, hb, hne, hne]

/-- So they have without a return at their ends. -/
theorem AlikeLine.sameCode_lineOf (h : AlikeLine a b) : SameCode (lineOf a) (lineOf b) := by
  refine ⟨h.stripLiterals_lineOf, ?_, ?_⟩
  · rw [trim_lineOf, trim_lineOf]
    exact h.sameCode.comment
  · rw [trim_lineOf, trim_lineOf]
    exact h.sameCode.empty

/-- The lines of alike texts have the same code. -/
theorem Alike.sameCode (h : Alike s t) : List.Forall₂ SameCode (lines s) (lines t) := by
  rw [lines_eq_linesOf, lines_eq_linesOf]
  rw [Alike] at h
  generalize s.splitOn '\n' = pieces at h
  generalize t.splitOn '\n' = pieces' at h
  induction h with
  | nil => exact .nil
  | @cons a b pieces pieces' hab hrest ih =>
    cases hrest with
    | nil =>
      have hempty : b.isEmpty = a.isEmpty := by
        rw [Bool.eq_iff_iff, List.isEmpty_iff_length_eq_zero, List.isEmpty_iff_length_eq_zero,
          hab.length_eq]
      simp only [linesOf, hempty]
      split
      · exact .nil
      · exact .cons hab.sameCode .nil
    | cons => exact .cons hab.sameCode_lineOf ih

variable {code code' : List (List Char)}

/-- Of lines with the same code the same are in braces. -/
theorem braceLength_congr (h : List.Forall₂ SameCode code code') (lookahead : Nat)
    (scan : BraceScan) (read : Nat) :
    braceLength lookahead scan read code' = braceLength lookahead scan read code := by
  induction h generalizing scan read with
  | nil => rfl
  | @cons a b code code' hab _ ih =>
    have hline : scan.readLine b = scan.readLine a := congrArg (List.foldl _ scan) hab.stripped
    simp only [braceLength, hline, ih]

/-- The first and the last line of a span, whose text is that of the lines. -/
def Span.extent (span : Span) : Nat × Nat :=
  (span.first, span.last)

/-- Lines with the same code have bodies in braces of the same extent. -/
theorem extent_braceBody?_congr (h : List.Forall₂ SameCode code code') (start lookahead : Nat) :
    (braceBody? code' start lookahead).map Span.extent =
      (braceBody? code start lookahead).map Span.extent := by
  rw [braceBody?, braceBody?, braceLength_congr (List.forall₂_drop start h), Option.map_map,
    Option.map_map]
  rfl

/-- Lines with the same code are the same without their literals. -/
theorem map_stripLiterals_congr (h : List.Forall₂ SameCode code code') :
    code'.map stripLiterals = code.map stripLiterals := by
  induction h with
  | nil => rfl
  | cons hab _ ih => rw [List.map_cons, List.map_cons, hab.stripped, ih]

/-- Lines with the same code open and close as many braces. -/
theorem map_braceDelta_congr (h : List.Forall₂ SameCode code code') :
    code'.map braceDelta = code.map braceDelta := by
  have hmap := congrArg (List.map braceBalance) (map_stripLiterals_congr h)
  rw [List.map_map, List.map_map] at hmap
  exact hmap

end Adjudicator.Code

namespace Adjudicator.Value

open Text Code

variable {s t : List Char}

/-- Texts whose lines have the same code raise errors alike. -/
theorem raises_congr (h : List.Forall₂ SameCode (lines s) (lines t)) : raises t = raises s := by
  rw [raises, raises]
  generalize lines s = code at h
  generalize lines t = code' at h
  induction h with
  | nil => rfl
  | cons hab _ ih => rw [List.any_cons, List.any_cons, hab.comment, hab.stripped, ih]

/-- A value of a body without the line of text that it stands in. -/
def SourceValue.reading (v : SourceValue) : Role × Float × Nat :=
  (v.role, v.value, v.line)

/-- The same values are read off lines with the same code. -/
theorem map_reading_ofLine {a b : List Char} (h : SameCode a b) (number : Nat) :
    (ofLine b number).map SourceValue.reading = (ofLine a number).map SourceValue.reading := by
  simp only [ofLine, literals, h.stripped, h.comment, h.empty]
  split
  · rfl
  · split
    · rfl
    · split
      · rfl
      · rw [List.map_map, List.map_map]
        rfl

/-- The same values are read off texts whose lines have the same code. -/
theorem map_reading_ofBody (h : List.Forall₂ SameCode (lines s) (lines t)) (first : Nat) :
    (ofBody t first).map SourceValue.reading = (ofBody s first).map SourceValue.reading := by
  rw [ofBody, ofBody]
  generalize lines s = code at h
  generalize lines t = code' at h
  induction h generalizing first with
  | nil => rfl
  | cons hab _ ih =>
    rw [List.zipIdx_cons, List.zipIdx_cons, List.flatMap_cons, List.flatMap_cons, List.map_append,
      List.map_append, map_reading_ofLine hab, ih]

/-- Text inside literals has no influence on what is read off a text: where two texts differ only
in content of literals, their code, their bodies in braces, the errors that they raise and their
values are the same. -/
theorem contents_have_no_influence (s t : List Char) (h : Alike s t) :
    (lines t).map stripLiterals = (lines s).map stripLiterals ∧
      (lines t).map braceDelta = (lines s).map braceDelta ∧
      (∀ start lookahead, (braceBody? (lines t) start lookahead).map Span.extent =
        (braceBody? (lines s) start lookahead).map Span.extent) ∧
      raises t = raises s ∧
      ∀ first, (ofBody t first).map SourceValue.reading =
        (ofBody s first).map SourceValue.reading :=
  ⟨map_stripLiterals_congr h.sameCode, map_braceDelta_congr h.sameCode,
    extent_braceBody?_congr h.sameCode, raises_congr h.sameCode, map_reading_ofBody h.sameCode⟩

/-- A brace and a number in a literal may become a word that raises errors in code. -/
theorem words_in_literal_have_no_influence :
    Alike "\x7b\n  log(\"\x7d 17,\");\n  return 5;\n\x7d".toList
        "\x7b\n  log(\"throw\");\n  return 5;\n\x7d".toList ∧
      (braceBody? (lines "\x7b\n  log(\"throw\");\n  return 5;\n\x7d".toList) 0 0).map Span.extent =
        (braceBody? (lines "\x7b\n  log(\"\x7d 17,\");\n  return 5;\n\x7d".toList) 0 0).map
          Span.extent ∧
      raises "\x7b\n  log(\"throw\");\n  return 5;\n\x7d".toList =
        raises "\x7b\n  log(\"\x7d 17,\");\n  return 5;\n\x7d".toList ∧
      (ofBody "\x7b\n  log(\"throw\");\n  return 5;\n\x7d".toList 1).map SourceValue.reading =
        (ofBody "\x7b\n  log(\"\x7d 17,\");\n  return 5;\n\x7d".toList 1).map
          SourceValue.reading := by
  have h : Alike "\x7b\n  log(\"\x7d 17,\");\n  return 5;\n\x7d".toList
      "\x7b\n  log(\"throw\");\n  return 5;\n\x7d".toList := by
    decide +kernel
  obtain ⟨-, -, hbodies, hraises, hvalues⟩ := contents_have_no_influence _ _ h
  exact ⟨h, hbodies 0 0, hraises, hvalues 1⟩

end Adjudicator.Value
