import Adjudicator.Mutation.Candidates
import Adjudicator.Proofs.Mutation.Masked
import Adjudicator.Proofs.Pattern.Groups

/-!
# Returned arithmetic

A line that returns arithmetic has no literals, so its masked form is the line itself up to a
comment. Main statement: where such a line is cut for its value the value is followed by nothing
but blanks, a semicolon and a comment, and it does not end in a blank.
-/

namespace Adjudicator.Mutation

open Text Pattern Cursor

variable {line s : List Char} {c d e : Cursor}

/-- The characters of a value that is computed. -/
def isArithmetic (c : Char) : Bool :=
  isWord c || isBlank c || ".()+-*/%".toList.contains c

/-- The parts of a line that returns a value. -/
structure ReturnLine (line : List Char) where
  /-- What is in front of the keyword. -/
  indent : List Char
  /-- What is behind it. -/
  space : List Char
  /-- The returned value. -/
  value : List Char
  /-- What is behind the value. -/
  middle : List Char
  /-- The semicolon, if there is one. -/
  semicolon : List Char
  /-- What is behind that. -/
  rest : List Char
  /-- The comment, if there is one. -/
  comment : List Char
  /-- The line has these parts. -/
  line_eq : line =
    indent ++ "return".toList ++ space ++ value ++ (middle ++ (semicolon ++ rest)) ++ comment
  /-- Its masked form has them too, but for the comment. -/
  mask_eq : mask line =
    indent ++ "return".toList ++ space ++ value ++ (middle ++ (semicolon ++ rest)) ++
      List.replicate (byteLength comment) ' '
  /-- The keyword stands first. -/
  blank_indent : Text.blank indent = true
  /-- It is a word. -/
  space_ne_nil : space ≠ []
  /-- Only blanks part it from the value. -/
  blank_space : Text.blank space = true
  /-- The value has no literals and no semicolon. -/
  arithmetic_value : ∀ c ∈ value, isArithmetic c = true
  /-- Only blanks part the value from a semicolon. -/
  blank_middle : Text.blank middle = true
  /-- There is a semicolon or none. -/
  semicolon_eq : semicolon = [] ∨ semicolon = [';']
  /-- Only blanks are left of the code. -/
  blank_rest : Text.blank rest = true
  /-- A comment begins with two slashes. -/
  comment_eq : comment = [] ∨ ['/', '/'] <+: comment

namespace ReturnLine

/-- Where the value starts. -/
def start (r : ReturnLine line) : Nat :=
  (r.indent ++ "return".toList ++ r.space).length

/-- Where it stops. -/
def stop (r : ReturnLine line) : Nat :=
  r.start + r.value.length

/-- The masked line shows the value as it is. -/
theorem unmasked (r : ReturnLine line) :
    Unmasked line r.start r.stop (r.indent ++ "return".toList ++ r.space) r.value
      (r.middle ++ (r.semicolon ++ r.rest) ++ r.comment) :=
  unmasked_of_agree (r.line_eq.trans (List.append_assoc _ _ _))
    (r.mask_eq.trans (List.append_assoc _ _ _))

end ReturnLine

/-! ## The pattern -/

/-- What the pattern reads up to the value. -/
private def opening : Pattern :=
  textStart ++ group 1 gap ++ "return" ++ space

/-- What it reads behind the value. -/
private def ending : Pattern :=
  gap ++ group 3 (opt ";") ++ gap ++ textEnd

/-- The characters of a value up to its first operator. -/
private def isOperand (c : Char) : Bool :=
  isWord c || isBlank c || ".()".toList.contains c

private theorem isArithmetic_of_isOperand {x : Char} (h : isOperand x = true) :
    isArithmetic x = true := by
  rw [isOperand, Bool.or_eq_true, List.contains_iff_mem] at h
  rw [isArithmetic, Bool.or_eq_true, List.contains_iff_mem]
  exact h.imp_right fun hx => List.mem_append_left "+-*/%".toList hx

/-- An operator belongs to a value and is no blank. -/
private theorem of_isOperator {x : Char} (h : "-+*/%".toList.contains x = true) :
    isArithmetic x = true ∧ isBlank x = false := by
  have hoperators : ("-+*/%".toList.all fun x => isArithmetic x && !isBlank x) = true := by decide
  have hx := List.all_eq_true.mp hoperators x (List.contains_iff_mem.mp h)
  rwa [Bool.and_eq_true, Bool.not_eq_true'] at hx

private theorem tryAt_returnedArithmetic (c : Cursor) :
    returnedArithmetic.tryAt c =
      opening.run c fun d => (one isOperand).plus.run d fun e => (anyOf "-+*/%").run e fun f =>
        (one isArithmetic).starLazy.run f fun g => ending.tryAt (g.mark 2 d.index) :=
  rfl

/-- The words of the ending. -/
private def IsEnding (middle semicolon rest : List Char) : Prop :=
  Text.blank middle = true ∧ (semicolon = [] ∨ semicolon = [';']) ∧ Text.blank rest = true

/-- An ending may begin a blank before. -/
private theorem IsEnding.cons {x : Char} {middle semicolon rest : List Char}
    (h : IsEnding middle semicolon rest) (hx : isBlank x = true) :
    IsEnding (x :: middle) semicolon rest := by
  refine ⟨?_, h.2⟩
  rw [Text.blank, List.all_cons, hx, Bool.true_and]
  exact h.1

private theorem reads_gap : gap.Reads {t | Text.blank t = true} := by
  have hblank : several isBlank = {t | Text.blank t = true} := by
    ext t
    exact List.all_eq_true.symm
  exact hblank ▸ reads_star_one

private theorem reads_semicolon : (opt ";").Reads {t | t = [] ∨ t = [';']} := by
  have hwords : ({";".toList} + 1 : CharLanguage) = {t | t = [] ∨ t = [';']} := by
    ext t
    exact or_comm
  exact hwords ▸ reads_opt (reads_text ";")

/-- The ending is read where nothing but an ending is left. -/
private theorem mem_offers_ending : d ∈ ending.offers e ↔
    ∃ middle semicolon rest, IsEnding middle semicolon rest ∧
      e.rest = middle ++ (semicolon ++ rest) ∧
      d = (((e.past middle (semicolon ++ rest)).past semicolon rest).mark 3
        (e.index + middle.length)).past rest [] := by
  constructor
  · intro h
    obtain ⟨_, h, h₄⟩ := mem_offers_append.mp h
    obtain ⟨_, h, h₃⟩ := mem_offers_append.mp h
    obtain ⟨_, h₁, h₂⟩ := mem_offers_append.mp h
    obtain ⟨middle, hmiddle, s₁, hs, rfl⟩ := (reads_gap _ _).mp h₁
    obtain ⟨semicolon, hsemicolon, s₂, rfl, rfl⟩ := reads_semicolon.only.group h₂
    obtain ⟨rest, hrest, s₃, rfl, rfl⟩ := (reads_gap _ _).mp h₃
    obtain ⟨hempty, rfl⟩ := mem_offers_look.mp h₄
    obtain rfl : s₃ = [] := List.isEmpty_iff.mp hempty
    rw [List.append_nil] at hs
    refine ⟨middle, semicolon, rest, ⟨hmiddle, hsemicolon, hrest⟩, hs, ?_⟩
    rw [List.append_nil]
    rfl
  · rintro ⟨middle, semicolon, rest, ⟨hmiddle, hsemicolon, hrest⟩, hs, rfl⟩
    refine mem_offers_append.mpr ⟨_, mem_offers_append.mpr ⟨_, mem_offers_append.mpr
      ⟨_, (reads_gap _ _).mpr ⟨middle, hmiddle, _, hs, rfl⟩, mem_offers_group.mpr
        ⟨_, (reads_semicolon _ _).mpr ⟨semicolon, hsemicolon, rest, rfl, rfl⟩, rfl⟩⟩,
      (reads_gap _ _).mpr ⟨rest, hrest, [], (List.append_nil rest).symm, rfl⟩⟩, ?_⟩
    exact mem_offers_look.mpr ⟨rfl, rfl⟩

/-- The opening is read at the start of a text alone. -/
private theorem of_mem_offers_opening (h : d ∈ opening.offers c) :
    c.prev = none ∧ ∃ indent space, Text.blank indent = true ∧ space ≠ [] ∧
      Text.blank space = true ∧ c.rest = indent ++ "return".toList ++ space ++ d.rest ∧
      d.index = c.index + (indent ++ "return".toList ++ space).length := by
  obtain ⟨_, h, h₄⟩ := mem_offers_append.mp h
  obtain ⟨_, h, h₃⟩ := mem_offers_append.mp h
  obtain ⟨_, h₁, h₂⟩ := mem_offers_append.mp h
  obtain ⟨hprev, rfl⟩ := mem_offers_look.mp h₁
  obtain ⟨indent, hindent, s₁, hs, rfl⟩ := reads_gap.only.group h₂
  obtain ⟨_, rfl, s₂, rfl, rfl⟩ := (reads_text "return" _ _).mp h₃
  obtain ⟨space, s₃, hne, rfl, hspace, rfl⟩ := mem_offers_plus_one.mp h₄
  refine ⟨Option.isNone_iff_eq_none.mp hprev, indent, space, hindent, hne,
    List.all_eq_true.mpr hspace, ?_, ?_⟩
  · simp only [hs, List.append_assoc]
    rfl
  · simp only [past, mark, List.length_append, Nat.add_assoc]

/-- The words of a text that returns arithmetic. -/
private structure IsReturn (s indent space value middle semicolon rest : List Char) : Prop where
  text_eq : s = indent ++ "return".toList ++ space ++ value ++ (middle ++ (semicolon ++ rest))
  indent_eq : Text.blank indent = true
  space_ne_nil : space ≠ []
  space_eq : Text.blank space = true
  value_eq : ∀ x ∈ value, isArithmetic x = true
  value_last : ∃ x, value.getLast? = some x ∧ isBlank x = false
  ending : IsEnding middle semicolon rest

/-- A value does not end in a blank, since the ending could begin there. -/
private theorem of_tryAt_returnedArithmetic (h : returnedArithmetic.tryAt c = some d) :
    c.prev = none ∧ ∃ indent space value middle semicolon rest,
      IsReturn c.rest indent space value middle semicolon rest ∧
      ∃ start marks, start = c.index + (indent ++ "return".toList ++ space).length ∧
        d.marks = (3, start + value.length + middle.length,
            start + value.length + middle.length + semicolon.length) ::
          (2, start, start + value.length) :: marks := by
  rw [tryAt_returnedArithmetic, run_eq_findSome?_offers] at h
  obtain ⟨d₁, h₁, h⟩ := List.exists_of_findSome?_eq_some h
  rw [run_eq_findSome?_offers] at h
  obtain ⟨d₂, h₂, h⟩ := List.exists_of_findSome?_eq_some h
  rw [run_eq_findSome?_offers] at h
  obtain ⟨d₃, h₃, h⟩ := List.exists_of_findSome?_eq_some h
  obtain ⟨taken, s₃, hs₃, htaken, hend, hfewer⟩ := starLazy_one_run h
  obtain ⟨hprev, indent, space, hindent, hne, hspace, hs, hindex⟩ := of_mem_offers_opening h₁
  obtain ⟨operand, s₁, _, hs₁, hoperand, rfl⟩ := mem_offers_plus_one.mp h₂
  obtain ⟨operator, s₂, hs₂, hoperator, rfl⟩ := mem_offers_one.mp h₃
  obtain ⟨middle, semicolon, rest, hending, hrest, rfl⟩ :=
    mem_offers_ending.mp (tryAt_mem_offers hend)
  obtain rfl : s₁ = operator :: s₂ := hs₂
  obtain rfl : s₂ = taken ++ s₃ := hs₃
  obtain rfl : s₃ = middle ++ (semicolon ++ rest) := hrest
  refine ⟨hprev, indent, space, operand ++ operator :: taken, middle, semicolon, rest,
    ⟨?_, hindent, hne, hspace, ?_, ?_, hending⟩, d₁.index, d₁.marks, hindex, ?_⟩
  · simp only [hs, hs₁, List.append_assoc, List.cons_append]
  · rw [List.forall_mem_append, List.forall_mem_cons]
    exact ⟨fun x hx => isArithmetic_of_isOperand (hoperand x hx), (of_isOperator hoperator).1,
      htaken⟩
  · rcases List.eq_nil_or_concat' taken with rfl | ⟨fewer, x, rfl⟩
    · exact ⟨operator, List.getLast?_concat, (of_isOperator hoperator).2⟩
    · refine ⟨x, ?_, ?_⟩
      · rw [← List.cons_append, ← List.append_assoc, List.getLast?_concat]
      · by_contra hblank
        -- the lazy repetition would have stopped before this blank
        have hnone := tryAt_eq_none_iff.mp (hfewer fewer [x] rfl (List.cons_ne_nil _ _))
        exact hnone _ (mem_offers_ending.mpr ⟨x :: middle, semicolon, rest,
          hending.cons (Bool.eq_true_of_not_eq_false hblank), rfl, rfl⟩)
  · have hlength : d₁.index + operand.length + 1 + taken.length =
        d₁.index + (operand ++ operator :: taken).length := by
      rw [List.length_append, List.length_cons]
      omega
    simp only [past, mark, List.length_singleton, hlength]

/-! ## The line -/

private theorem not_quote_of_isArithmetic {x : Char} (h : isArithmetic x = true) : x ∉ quotes := by
  have hquotes : (quotes.all fun x => !isArithmetic x) = true := by decide
  intro hx
  have hnone := List.all_eq_true.mp hquotes x hx
  rw [h] at hnone
  cases hnone

private theorem not_quote_of_blank {t : List Char} (h : Text.blank t = true) :
    ∀ x ∈ t, x ∉ quotes := by
  intro x hx
  refine not_quote_of_isArithmetic ?_
  rw [isArithmetic, List.all_eq_true.mp h x hx, Bool.or_true, Bool.true_or]

private theorem IsEnding.not_quote {middle semicolon rest : List Char}
    (h : IsEnding middle semicolon rest) : ∀ x ∈ middle ++ (semicolon ++ rest), x ∉ quotes := by
  obtain ⟨hmiddle, hsemicolon, hrest⟩ := h
  rw [List.forall_mem_append, List.forall_mem_append]
  refine ⟨not_quote_of_blank hmiddle, ?_, not_quote_of_blank hrest⟩
  rcases hsemicolon with rfl | rfl
  · exact nofun
  · exact List.forall_mem_singleton.mpr (by decide)

private theorem IsReturn.not_quote {indent space value middle semicolon rest : List Char}
    (h : IsReturn s indent space value middle semicolon rest) : ∀ x ∈ s, x ∉ quotes := by
  have hreturn : "return".toList.all isArithmetic = true := by decide
  rw [h.text_eq]
  rw [List.forall_mem_append, List.forall_mem_append, List.forall_mem_append,
    List.forall_mem_append]
  exact ⟨⟨⟨⟨not_quote_of_blank h.indent_eq,
    fun c hc => not_quote_of_isArithmetic (List.all_eq_true.mp hreturn c hc)⟩,
    not_quote_of_blank h.space_eq⟩, fun c hc => not_quote_of_isArithmetic (h.value_eq c hc)⟩,
    h.ending.not_quote⟩

/-- What spaces are added to after a text that does not end in a space. -/
private theorem exists_of_append_replicate {n : Nat} {code front back : List Char}
    (h : front ++ back = code ++ List.replicate n ' ') (hfront : front.getLast? ≠ some ' ') :
    ∃ tail, code = front ++ tail ∧ back = tail ++ List.replicate n ' ' := by
  rcases List.append_eq_append_iff.mp h with ⟨tail, hcode, hback⟩ | ⟨w, hfront', hspaces⟩
  · exact ⟨tail, hcode, hback⟩
  · have hw : w = [] := by
      by_contra hne
      apply hfront
      rw [hfront', List.getLast?_append_of_ne_nil _ hne, List.getLast?_eq_some_getLast hne]
      have hmem := List.mem_append_left back (List.getLast_mem hne)
      rw [← hspaces] at hmem
      exact congrArg some (List.eq_of_mem_replicate hmem)
    subst hw
    exact ⟨[], by rw [hfront', List.append_nil, List.append_nil], hspaces.symm⟩

private theorem blank_append {t t' : List Char} :
    Text.blank (t ++ t') = true ↔ Text.blank t = true ∧ Text.blank t' = true := by
  rw [Text.blank, List.all_append, Bool.and_eq_true]
  rfl

/-- An ending without the spaces at its end is one, with the same semicolon. -/
private theorem IsEnding.exists_of_append_replicate {n : Nat}
    {middle semicolon rest tail : List Char}
    (h : IsEnding middle semicolon rest)
    (htail : middle ++ (semicolon ++ rest) = tail ++ List.replicate n ' ') :
    ∃ middle' rest', IsEnding middle' semicolon rest' ∧ tail = middle' ++ (semicolon ++ rest') := by
  obtain ⟨hmiddle, rfl | rfl, hrest⟩ := h
  · have hblank : Text.blank (tail ++ List.replicate n ' ') = true :=
      htail ▸ blank_append.mpr ⟨hmiddle, hrest⟩
    refine ⟨tail, [], ⟨(blank_append.mp hblank).1, .inl rfl, rfl⟩, (List.append_nil tail).symm⟩
  · have hfront : (middle ++ [';']).getLast? ≠ some ' ' := by
      rw [List.getLast?_concat]
      decide
    rw [← List.append_assoc] at htail
    obtain ⟨rest', rfl, rfl⟩ := Mutation.exists_of_append_replicate htail hfront
    exact ⟨middle, rest', ⟨hmiddle, .inr rfl, (blank_append.mp hrest).1⟩, List.append_assoc _ _ _⟩

/-- Where a line is cut for the value it returns only an ending and a comment follow. -/
theorem exists_returnLine {found : Match} (h : returnedArithmetic.find? (mask line) = some found) :
    ∃ r : ReturnLine line, found.span? 2 = some (r.start, r.stop) ∧
      found.group 3 = r.semicolon := by
  obtain ⟨front, back, d, hsplit, hd, rfl⟩ := find?_fits h
  obtain ⟨hprev, indent, space, value, middle, semicolon, rest, hreturn, start, marks, hstart,
    hmarks⟩ := of_tryAt_returnedArithmetic hd
  obtain rfl : front = [] := List.getLast?_eq_none_iff.mp hprev
  have hmask : mask line =
      indent ++ "return".toList ++ space ++ value ++ (middle ++ (semicolon ++ rest)) :=
    hsplit.trans hreturn.text_eq
  have hquotes : ∀ c ∈ mask line, c ∉ quotes := hsplit ▸ hreturn.not_quote
  obtain ⟨code, comment, hline, hcode, hcomment⟩ := exists_comment hquotes
  have hfront : (indent ++ "return".toList ++ space ++ value).getLast? ≠ some ' ' := by
    obtain ⟨x, hlast, hx⟩ := hreturn.value_last
    rw [List.getLast?_append, hlast, Option.some_or]
    rintro ⟨⟩
    cases hx
  obtain ⟨tail, rfl, htail⟩ := exists_of_append_replicate (hmask.symm.trans hcode) hfront
  obtain ⟨middle', rest', hending', rfl⟩ := hreturn.ending.exists_of_append_replicate htail
  let r : ReturnLine line :=
    { indent, space, value, middle := middle', semicolon, rest := rest', comment
      line_eq := hline, mask_eq := hcode, blank_indent := hreturn.indent_eq
      space_ne_nil := hreturn.space_ne_nil, blank_space := hreturn.space_eq
      arithmetic_value := hreturn.value_eq, blank_middle := hending'.1
      semicolon_eq := hending'.2.1, blank_rest := hending'.2.2, comment_eq := hcomment }
  have hstart' : start = r.start := hstart.trans (Nat.zero_add _)
  refine ⟨r, ?_, ?_⟩
  · rw [Match.span?, hmarks, hstart']
    rfl
  · refine group_of_span? (hmask.trans (List.append_assoc _ _ _).symm) ?_
    have hlength : start + value.length + middle.length =
        (indent ++ "return".toList ++ space ++ value ++ middle).length := by
      simp only [hstart', r, ReturnLine.start, List.length_append]
    rw [Match.span?, hmarks, hlength]
    rfl

end Adjudicator.Mutation
