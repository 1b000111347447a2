import Adjudicator.Proofs.Mutation.Literals
import Adjudicator.Proofs.Mutation.Returned
import Adjudicator.Proofs.Text.Trim

/-!
# Edits of lines

Each pass over a line finds places in its masked form and cuts the line there. Main statement: a
mutation of a body edits one line of it, at a place that begins and ends between characters and
that the masked form shows as it is. No cut parts a character, whatever the line is.
-/

namespace Adjudicator.Mutation

open Text Pattern Number

variable {line : List Char} {number : Nat} {m : Mutation} {start stop : Nat}

/-! ## Places -/

/-- Where a masked line is cut for mutations of a kind. -/
def places (masked : List Char) : MutationKind → List (Nat × Nat)
  | .number => (numberPattern.findAll masked).filterMap (·.span? 1)
  | .operator | .bound =>
    (operatorsFrom 0 none 0 masked).map fun (index, operator) => (index, index + operator.length)
  | .truth => (truthPattern.findAll masked).map fun m => (m.start, m.stop)
  | .result => ((returnedArithmetic.find? masked).bind (·.span? 2)).toList
  | .condition =>
    ((conditionPattern.find? masked).bind fun m =>
      (m.span? 1).map fun (start, _) => (start, start + balancedLength 0 (m.group 1))).toList

/-! ### Numbers -/

/-- A number in a masked line is a part of the line. -/
theorem unmasked_of_mem_numbers {found : Match} (h : found ∈ numberPattern.findAll (mask line)) :
    ∃ start stop p q, found.span? 1 = some (start, stop) ∧
      Unmasked line start stop p (found.group 1) q := by
  obtain ⟨_, whole, tail, _, hmask, hspan, hgroup, hne, hwhole, htail, -⟩ := exists_number h
  have hspace : ' ' ∉ whole ++ tail := by
    have hblank : isDigit ' ' ≠ true := by decide
    rw [List.mem_append, not_or]
    refine ⟨fun hmem => hblank (hwhole _ hmem), ?_⟩
    rcases htail with rfl | ⟨digits, -, hdigits, rfl⟩
    · exact List.not_mem_nil
    · rw [List.mem_cons, not_or]
      exact ⟨by decide, fun hmem => hblank (hdigits _ hmem)⟩
  obtain ⟨p, q, hunmasked⟩ :=
    exists_unmasked hmask (List.append_ne_nil_of_left_ne_nil hne _) hspace
  rw [hgroup]
  exact ⟨_, _, p, q, hspan, hunmasked⟩

/-! ### Operators -/

private theorem partner?_isSome {operator : String} (h : (partner? operator).isSome = true) :
    operator.toList ≠ [] ∧ ' ' ∉ operator.toList := by
  unfold partner? at h
  split at h <;> first | decide | cases h

/-- What is read as an operator is one, at its position. -/
private theorem of_mem_operatorsFrom {skip index i : Nat} {prev : Option Char} {s : List Char}
    {operator : String} (h : (i, operator) ∈ operatorsFrom skip prev index s) :
    ∃ u v, s = u ++ (operator.toList ++ v) ∧ i = index + u.length ∧
      (partner? operator).isSome = true := by
  induction s generalizing skip index prev with
  | nil => cases h
  | cons c rest ih =>
    have hlater {skip : Nat} (h : (i, operator) ∈ operatorsFrom skip (some c) (index + 1) rest) :
        ∃ u v, c :: rest = u ++ (operator.toList ++ v) ∧ i = index + u.length ∧
          (partner? operator).isSome = true := by
      obtain ⟨u, v, rfl, rfl, hpartner⟩ := ih h
      exact ⟨c :: u, v, rfl, by rw [List.length_cons]; omega, hpartner⟩
    unfold operatorsFrom at h
    split at h
    next => exact hlater h
    next =>
      dsimp only at h
      split_ifs at h with hnone htwo htight hone
      · exact hlater h
      · rcases List.mem_cons.mp h with hfirst | h
        · obtain ⟨rfl, rfl⟩ := Prod.mk.inj hfirst
          refine ⟨[], rest.drop 1, ?_, rfl, (Bool.and_eq_true _ _ ▸ htwo).2⟩
          rw [String.toList_ofList, List.nil_append, List.cons_append, List.take_append_drop]
        · exact hlater h
      · exact hlater h
      · rcases List.mem_cons.mp h with hfirst | h
        · obtain ⟨rfl, rfl⟩ := Prod.mk.inj hfirst
          simp only [Bool.and_eq_true] at hone
          exact ⟨[], rest, by rw [String.toList_ofList]; rfl, rfl, hone.1.1⟩
        · exact hlater h
      · exact hlater h

/-- An operator in a masked line is a part of the line. -/
theorem unmasked_of_mem_operators {index : Nat} {operator : String}
    (h : (index, operator) ∈ operatorsFrom 0 none 0 (mask line)) :
    ∃ p q, Unmasked line index (index + operator.length) p operator.toList q := by
  obtain ⟨u, v, hmask, rfl, hpartner⟩ := of_mem_operatorsFrom h
  obtain ⟨hne, hspace⟩ := partner?_isSome hpartner
  rw [Nat.zero_add, ← String.length_toList]
  exact exists_unmasked hmask hne hspace

/-! ### Truth values -/

/-- The truth values of all languages. -/
def truthWords : List String :=
  ["true", "false", "True", "False"]

/-- A truth value in a masked line is a part of the line. -/
theorem unmasked_of_mem_truths {found : Match} (h : found ∈ truthPattern.findAll (mask line)) :
    ∃ p q, ∃ w ∈ truthWords, found.text = w.toList ∧
      Unmasked line found.start found.stop p found.text q := by
  obtain ⟨front, _, rfl, _, ⟨w, hw, rfl⟩, _, rfl, rest, hmask, hstart, hstop, htext, _⟩ :=
    (fits_of_mem_findAll h).exists_group readsOnly_look (reads_choice_text truthWords).only
      readsOnly_look
  have hword : ∀ w ∈ truthWords, w.toList ≠ [] ∧ ' ' ∉ w.toList := by decide
  simp only [List.append_nil, List.nil_append] at hmask hstop htext
  obtain ⟨p, q, hunmasked⟩ := exists_unmasked hmask (hword w hw).1 (hword w hw).2
  refine ⟨p, q, w, hw, htext, ?_⟩
  rw [hstart, hstop, htext]
  exact hunmasked

/-! ### Conditions -/

/-- A balanced part ends before a parenthesis that closes, or with the text. -/
private theorem balancedLength_split (depth : Nat) (s : List Char) :
    ∃ x y, s = x ++ y ∧ x.length = balancedLength depth s ∧ (y = [] ∨ y.head? = some ')') := by
  induction s generalizing depth with
  | nil => exact ⟨[], [], rfl, rfl, .inl rfl⟩
  | cons c rest ih =>
    have hcons {depth : Nat} : ∃ x y, c :: rest = x ++ y ∧
        x.length = balancedLength depth rest + 1 ∧ (y = [] ∨ y.head? = some ')') := by
      obtain ⟨x, y, rfl, hlength, hy⟩ := ih depth
      exact ⟨c :: x, y, rfl, congrArg (· + 1) hlength, hy⟩
    unfold balancedLength
    split_ifs with hopen hclose
    · exact hcons
    · split
      · exact ⟨[], c :: rest, rfl, rfl, .inr (congrArg some hclose)⟩
      · exact hcons
    · exact hcons

/-- A condition in a masked line is cut between its parentheses. -/
theorem aligned_condition {found : Match} (h : conditionPattern.find? (mask line) = some found) :
    ∃ start stop inner p x q, found.span? 1 = some (start, stop) ∧ found.group 1 = inner ∧
      Aligned line start (start + balancedLength 0 inner) p x q ∧
      ((mask line).take start).getLast? = some '(' ∧
      ((mask line).drop (start + balancedLength 0 inner)).head? = some ')' := by
  obtain ⟨front, _, ⟨a, _, _, rfl, rfl⟩, inner, _, _, rfl, rest, hmask, _, _, _, hspan, hinner⟩ :=
    (find?_fits h).exists_group
      (((readsOnly_look.append (reads_text "if").only).append reads_star_one.only).append
        (reads_text "(").only) reads_plus_one.only (reads_text ")").only
  dsimp only at hmask hspan
  obtain ⟨x, y, rfl, hlength, hy⟩ := balancedLength_split 0 inner
  generalize hu : front ++ (a ++ "(".toList) = u at hmask hspan
  have hopen : u.getLast? = some '(' := by
    rw [← hu, ← List.append_assoc]
    exact List.getLast?_concat
  have hclose : (y ++ (")".toList ++ rest)).head? = some ')' := by
    rcases hy with rfl | hy
    · rfl
    · rw [List.head?_append, hy, Option.some_or]
  rw [List.append_assoc] at hmask
  -- a condition may begin or end with a literal, so the parentheses outside are the borders
  obtain ⟨p, m, q, -, -, -, -, haligned⟩ := exists_aligned hmask
    (.inl (by rw [hopen]; decide)) (.inr (by rw [hclose]; decide))
  refine ⟨_, _, _, chars p, chars m, chars q, hspan, hinner, hlength ▸ haligned, ?_, ?_⟩
  · rw [hmask, List.take_left, hopen]
  · rw [hmask, ← hlength, ← List.length_append, ← List.append_assoc, List.drop_left, hclose]

/-- No cut parts a character. -/
theorem aligned_of_mem_places {kind : MutationKind} {place : Nat × Nat}
    (h : place ∈ places (mask line) kind) : ∃ p x q, Aligned line place.1 place.2 p x q := by
  cases kind with
  | number =>
    obtain ⟨found, hfound, hplace⟩ := List.mem_filterMap.mp h
    obtain ⟨start, stop, p, q, hspan, hunmasked⟩ := unmasked_of_mem_numbers hfound
    obtain rfl := Option.some.inj (hspan.symm.trans hplace)
    exact ⟨p, _, q, hunmasked.toAligned⟩
  | operator | bound =>
    obtain ⟨⟨index, operator⟩, hoperator, rfl⟩ := List.mem_map.mp h
    obtain ⟨p, q, hunmasked⟩ := unmasked_of_mem_operators hoperator
    exact ⟨p, _, q, hunmasked.toAligned⟩
  | truth =>
    obtain ⟨found, hfound, rfl⟩ := List.mem_map.mp h
    obtain ⟨p, q, _, _, _, hunmasked⟩ := unmasked_of_mem_truths hfound
    exact ⟨p, _, q, hunmasked.toAligned⟩
  | result =>
    obtain ⟨found, hfound, hplace⟩ := Option.bind_eq_some_iff.mp (Option.mem_toList.mp h)
    obtain ⟨r, hspan, _⟩ := exists_returnLine hfound
    obtain rfl := Option.some.inj (hspan.symm.trans hplace)
    exact ⟨_, _, _, r.unmasked.toAligned⟩
  | condition =>
    obtain ⟨found, hfound, hplace⟩ := Option.bind_eq_some_iff.mp (Option.mem_toList.mp h)
    obtain ⟨start, stop, inner, p, x, q, hspan, rfl, haligned, _⟩ := aligned_condition hfound
    rw [hspan, Option.map_some] at hplace
    obtain rfl := Option.some.inj hplace
    exact ⟨p, x, q, haligned⟩

/-! ## Edits -/

/-- What takes the place of a part of a line in a mutation of a kind. -/
def Replaces : MutationKind → List Char → List Char → Prop
  | .number, x, y =>
    let whole := !x.contains '.'
    ∃ value, readFloat? x = some value ∧
      ∃ factor ∈ [1.1, 0.9], y = literal (nudged value factor whole) whole
  | .truth, x, y => ∃ w ∈ truthWords, x = w.toList ∧ y = (flipped w).toList
  | kind, x, y =>
    ∃ operator other, partner? operator = some (other, kind) ∧ x = operator.toList ∧
      y = other.toList

/-- A mutation edits a line at one place: the value or the condition of the line, or else a part
that the masked line shows as it is. -/
def Edits (line : List Char) (m : Mutation) : Prop :=
  match m.kind with
  | .result =>
    ∃ r : ReturnLine line, (r.start, r.stop) ∈ places (mask line) .result ∧
      m.mutated = "return ".toList ++ trim r.value ++ " + 1".toList ++ r.semicolon
  | .condition =>
    ∃ start stop p x q, (start, stop) ∈ places (mask line) .condition ∧
      Aligned line start stop p x q ∧ ((mask line).take start).getLast? = some '(' ∧
      ((mask line).drop stop).head? = some ')' ∧
      m.mutated = trim (p ++ ("!(".toList ++ x ++ [')']) ++ q)
  | kind =>
    ∃ start stop p x y q, (start, stop) ∈ places (mask line) kind ∧
      Unmasked line start stop p x q ∧ Replaces kind x y ∧ m.mutated = trim (p ++ y ++ q)

/-- A mutation of a line with this number. -/
structure MutationOf (line : List Char) (number : Nat) (m : Mutation) : Prop where
  line_eq : m.line = number
  code_eq : m.code = trim line
  edits : Edits line m

/-- The mutated line is the line with the new text in place of the old, trimmed. -/
theorem mutated_edit {p x q new description : List Char} {kind : MutationKind}
    {change : Option NumberChange} (h : Aligned line start stop p x q) :
    (Subject.edit ⟨line, mask line, number⟩ kind start stop new description change).mutated =
      trim (p ++ new ++ q) := by
  simp only [Subject.edit, h.cut_eq, Cut.replaced]

private theorem mutationOf_mem_numbers (h : m ∈ Subject.numbers ⟨line, mask line, number⟩) :
    MutationOf line number m := by
  obtain ⟨found, hfound, hm⟩ := List.mem_flatMap.mp h
  obtain ⟨start, stop, p, q, hspan, hunmasked⟩ := unmasked_of_mem_numbers hfound
  rw [Subject.numberChanges, hspan] at hm
  cases hvalue : readFloat? (found.group 1) with
  | none =>
    rw [hvalue] at hm
    cases hm
  | some value =>
    rw [hvalue] at hm
    dsimp only at hm
    split at hm
    · cases hm
    · obtain ⟨⟨factor, label⟩, hfactor, rfl⟩ := List.mem_map.mp hm
      have hreplaces : Replaces .number (found.group 1) (literal
          (nudged value factor (!(found.group 1).contains '.')) (!(found.group 1).contains '.')) :=
        ⟨value, hvalue, factor, List.mem_map_of_mem (f := Prod.fst) hfactor, rfl⟩
      exact ⟨rfl, rfl, start, stop, p, _, _, q, List.mem_filterMap.mpr ⟨found, hfound, hspan⟩,
        hunmasked, hreplaces, mutated_edit hunmasked.toAligned⟩

/-- An operator is exchanged as an operator or as a bound. -/
theorem kind_of_partner? {operator other : String} {kind : MutationKind}
    (h : partner? operator = some (other, kind)) : kind = .operator ∨ kind = .bound := by
  unfold partner? at h
  split at h <;> cases h <;> decide

private theorem mutationOf_mem_operators (h : m ∈ Subject.operators ⟨line, mask line, number⟩) :
    MutationOf line number m := by
  obtain ⟨⟨index, operator⟩, hoperator, hm⟩ := List.mem_filterMap.mp h
  obtain ⟨p, q, hunmasked⟩ := unmasked_of_mem_operators hoperator
  obtain ⟨⟨other, kind⟩, hother, rfl⟩ := Option.map_eq_some_iff.mp hm
  have hplace := List.mem_map_of_mem (f := fun (index, operator) =>
    (index, index + String.length operator)) hoperator
  rcases kind_of_partner? hother with rfl | rfl
  · exact ⟨rfl, rfl, _, _, p, _, _, q, hplace, hunmasked, ⟨operator, other, hother, rfl, rfl⟩,
      mutated_edit hunmasked.toAligned⟩
  · exact ⟨rfl, rfl, _, _, p, _, _, q, hplace, hunmasked, ⟨operator, other, hother, rfl, rfl⟩,
      mutated_edit hunmasked.toAligned⟩

private theorem mutationOf_mem_truths (h : m ∈ Subject.truths ⟨line, mask line, number⟩) :
    MutationOf line number m := by
  rw [Subject.truths] at h
  split at h
  · cases h
  · obtain ⟨found, hfound, rfl⟩ := List.mem_map.mp h
    obtain ⟨p, q, w, hw, htext, hunmasked⟩ := unmasked_of_mem_truths hfound
    refine ⟨rfl, rfl, _, _, p, _, _, q, List.mem_map_of_mem hfound, hunmasked, ⟨w, hw, htext, ?_⟩,
      mutated_edit hunmasked.toAligned⟩
    rw [htext, String.ofList_toList]

private theorem mutationOf_mem_results (h : m ∈ Subject.results ⟨line, mask line, number⟩) :
    MutationOf line number m := by
  rw [Subject.results] at h
  cases hfound : returnedArithmetic.find? (mask line) with
  | none =>
    rw [hfound] at h
    cases h
  | some found =>
    obtain ⟨r, hspan, hsemicolon⟩ := exists_returnLine hfound
    have hplace : (r.start, r.stop) ∈ places (mask line) .result := by
      rw [places, hfound, Option.bind_some, hspan]
      exact List.mem_singleton_self _
    simp only [hfound, hspan, hsemicolon, r.unmasked.cut_eq, List.mem_singleton] at h
    subst h
    exact ⟨rfl, rfl, r, hplace, rfl⟩

private theorem mutationOf_mem_conditions (h : m ∈ Subject.conditions ⟨line, mask line, number⟩) :
    MutationOf line number m := by
  rw [Subject.conditions] at h
  cases hfound : conditionPattern.find? (mask line) with
  | none =>
    rw [hfound] at h
    cases h
  | some found =>
    obtain ⟨start, stop, inner, p, x, q, hspan, hinner, haligned, hopen, hclose⟩ :=
      aligned_condition hfound
    have hplace : (start, start + balancedLength 0 inner) ∈ places (mask line) .condition := by
      rw [places, hfound, Option.bind_some, hspan, Option.map_some, hinner]
      exact List.mem_singleton_self _
    simp only [hfound, hspan, hinner, Option.bind_some, Option.map_some] at h
    split at h
    · cases h
    · obtain rfl := List.mem_singleton.mp h
      refine ⟨rfl, rfl, _, _, p, x, q, hplace, haligned, hopen, hclose, ?_⟩
      rw [mutated_edit haligned, haligned.cut_eq]

private theorem mutationOf_mem_ofLine (h : m ∈ ofLine line number) :
    trim line ≠ [] ∧ Code.isComment (trim line) = false ∧ MutationOf line number m := by
  rw [ofLine] at h
  split at h
  · cases h
  next hcode =>
    rw [Bool.or_eq_true, not_or, List.isEmpty_iff, Bool.not_eq_true] at hcode
    refine ⟨hcode.1, hcode.2, ?_⟩
    simp only [List.mem_append] at h
    rcases h with (((h | h) | h) | h) | h
    · exact mutationOf_mem_numbers h
    · exact mutationOf_mem_operators h
    · exact mutationOf_mem_truths h
    · exact mutationOf_mem_results h
    · exact mutationOf_mem_conditions h

/-- A comment that does not begin with two slashes is edited like code. -/
theorem hash_comment_can_change :
    ∃ m ∈ ofBody "total = n  # left + right".toList 1, ∃ code comment changed,
      Code.isComment comment = true ∧ m.code = code ++ comment ∧ m.mutated = code ++ changed ∧
      changed ≠ comment := by
  have hedits : (ofBody "total = n  # left + right".toList 1).map (fun m => (m.code, m.mutated)) =
      [("total = n  # left + right".toList, "total = n  # left - right".toList)] := by
    decide
  have hmem := List.mem_singleton_self
    ("total = n  # left + right".toList, "total = n  # left - right".toList)
  rw [← hedits] at hmem
  obtain ⟨m, hm, hparts⟩ := List.mem_map.mp hmem
  obtain ⟨hcode, hmutated⟩ := Prod.mk.inj hparts
  exact ⟨m, hm, "total = n  ".toList, "# left + right".toList, "# left - right".toList, by decide,
    hcode, hmutated, by decide⟩

/-- Every mutation of a body edits one line of it, which is neither blank nor a comment. It replaces
a part of the line that the masked line shows as it is, or negates a condition in parentheses, or
adds one to a returned value behind which only an ending and a comment stand. No place where a line
is cut is inside a character, whatever the characters are. -/
theorem mutations_edit_code (body : List Char) (first : Nat) :
    (∀ m ∈ ofBody body first, ∃ k line, (lines body)[k]? = some line ∧ m.line = first + k ∧
      m.code = trim line ∧ blank line = false ∧ Code.isComment (trim line) = false ∧
      Edits line m) ∧
    ∀ line ∈ lines body, ∀ kind, ∀ place ∈ places (mask line) kind,
      ∃ p x q, Aligned line place.1 place.2 p x q := by
  refine ⟨fun m hm => ?_, fun line _ kind place => aligned_of_mem_places⟩
  obtain ⟨⟨line, number⟩, hline, hm⟩ := List.mem_flatMap.mp hm
  obtain ⟨hfirst, hline⟩ := List.mk_mem_zipIdx_iff_le_and_getElem?_sub.mp hline
  obtain ⟨hne, hcomment, hmutation⟩ := mutationOf_mem_ofLine hm
  refine ⟨number - first, line, hline, ?_, hmutation.code_eq, ?_, hcomment, hmutation.edits⟩
  · rw [hmutation.line_eq, Nat.add_sub_cancel' hfirst]
  · exact Bool.eq_false_iff.mpr fun hblank => hne (trim_eq_nil_iff.mpr hblank)

end Adjudicator.Mutation
