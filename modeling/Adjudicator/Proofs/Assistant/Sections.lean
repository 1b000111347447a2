import Adjudicator.Assistant.Answer
import Adjudicator.Proofs.Pattern.Taken
import Adjudicator.Proofs.Text.Lines

/-!
# Sections of answers

A section is a label with a colon and a text whose further lines begin with a dash. Main statement:
an answer that consists of sections of different labels has exactly these sections, whatever their
texts say. A header can only stand at the start of a line, and there it does not begin with a dash.
-/

namespace Adjudicator.Answer

open Text Pattern Cursor

/-! ## Headers -/

section Headers

variable {c : Cursor} {rest : List Char}

/-- The names of sections. -/
def sectionNames : List String :=
  ["description", "inputs", "outputs", "exceptions", "side effects", "returns", "errors",
    "suggestion", "explanation"]

/-- The labels of sections, their names in capitals. -/
def labels : List String :=
  ["DESCRIPTION", "INPUTS", "OUTPUTS", "EXCEPTIONS", "SIDE EFFECTS", "RETURNS", "ERRORS",
    "SUGGESTION", "EXPLANATION"]

/-- The marks that may stand in front of a name. -/
def headerMark : Pattern :=
  choice ["**", (text "#").plus ++ gap]

/-- What stands behind the name in a header. -/
def headerTail : Pattern :=
  opt "**" ++ (gap ++ (":" ++ (opt "**" ++ (anyOf " \t").star)))

/-- The pattern of a header is a line start, blanks, marks, a name and what stands behind it. -/
theorem tryAt_header : header.tryAt =
    (lineStart ++ (gap ++ (opt headerMark ++
      (group 1 (choice (sectionNames.map anyCase)) ++ headerTail)))).tryAt :=
  rfl

private theorem tryAt_lineStart_append (q : Pattern) (c : Cursor) :
    (lineStart ++ q).tryAt c = if c.prev.all (· == '\n') then q.tryAt c else none :=
  rfl

/-- Inside a line there is no header. -/
theorem tryAt_header_inside {x : Char} (hprev : c.prev = some x) (hx : x ≠ '\n') :
    header.tryAt c = none := by
  have hline : (some x).all (· == '\n') = false := beq_eq_false_iff_ne.mpr hx
  rw [tryAt_header, tryAt_lineStart_append, hprev, hline, if_neg Bool.false_ne_true]

/-- No mark of a header is read in front of a character that is neither a star nor a hash sign. -/
theorem rejects_headerMark {inside : Char → Bool} (hstar : inside '*' = false)
    (hhash : inside '#' = false) : headerMark.Rejects inside :=
  (rejects_text (w := ['*']) rfl hstar).either
    (Rejects.append (Rejects.append (rejects_text (w := []) rfl hhash)))

/-- No header begins with a dash. -/
theorem tryAt_header_dash (hc : c.rest = '-' :: rest) : header.tryAt c = none := by
  have hnames : (choice (sectionNames.map anyCase)).Rejects (· == '-') := by
    intro c x rest hc hx
    rw [beq_iff_eq.mp hx] at hc
    exact tryAt_choice_anyCase_none (w := ['-']) (by decide) hc
  have hrejects : (gap ++ (opt headerMark ++
      (group 1 (choice (sectionNames.map anyCase)) ++ headerTail))).Rejects (· == '-') := by
    refine Rejects.star_one_append (fun x hx => ?_)
      (Rejects.opt_append (rejects_headerMark rfl rfl) (hnames.group 1).append)
    rw [beq_iff_eq.mp hx]
    decide
  rw [tryAt_header, tryAt_lineStart_append, hrejects c '-' rest hc rfl, ite_self]

/-- A header has a colon. -/
theorem tryAt_header_of_not_mem (h : ':' ∉ c.rest) : header.tryAt c = none := by
  have hneeds : header.Needs [':'] := (needs_text ":").behind.append.append
  rw [tryAt_eq_none_iff]
  intro d hd
  exact h ((hneeds c d hd).subset (List.mem_singleton_self ':'))

/-- The marks behind a name end with the colon and the spaces behind it. -/
theorem takes_headerTail {lead : List Char} (hlead : ∀ x ∈ lead, x = ' ')
    (hrest : ∀ x ∈ rest.head?, x ≠ ' ' ∧ x ≠ '\t')
    (hstar : ∃ x ∈ (lead ++ rest).head?, x ≠ '*') : headerTail.Takes (':' :: lead) rest := by
  have hstars {x : Char} {tail : List Char} (hx : x ≠ '*') : (opt "**").Takes [] (x :: tail) := by
    have hrejects : (text "**").Rejects (· != '*') := rejects_text (w := ['*']) rfl rfl
    exact hrejects.takes_opt (bne_iff_ne.mpr hx)
  obtain ⟨x, hx, hne⟩ := hstar
  obtain ⟨tail, htail⟩ := List.head?_eq_some_iff.mp hx
  have hspaces : (anyOf " \t").star.Takes lead rest := by
    refine takes_star_one (fun y hy => ?_) fun y hy => ?_
    · rw [hlead y hy]
      rfl
    · obtain ⟨hspace, htab⟩ := hrest y hy
      change [' ', '\t'].contains y = false
      simp only [List.contains_cons, List.contains_nil, Bool.or_false, Bool.or_eq_false_iff,
        beq_eq_false_iff_ne]
      exact ⟨hspace, htab⟩
  have hopt : (opt "**").Takes [] (lead ++ rest) := htail ▸ hstars hne
  have hcolon : (text ":").Takes [':'] (lead ++ rest) := takes_text ":"
  have hgap : gap.Takes [] (':' :: (lead ++ rest)) :=
    takes_star_one (List.forall_mem_nil _) fun y hy => by
      obtain rfl := Option.some.inj hy
      decide
  exact (hstars (by decide)).append (hgap.append (hcolon.append (hopt.append hspaces)))

/-- The header of a label at the start of a line, with the label as its name. -/
theorem tryAt_header_label {label lead : List Char} (hline : c.prev.all (· == '\n') = true)
    (hc : c.rest = label ++ (':' :: lead ++ rest)) (hfirst : firstIs label sectionNames = true)
    (hhead : (label.head?.any fun x => !isBlank x && x != '*' && x != '#') = true)
    (hlead : ∀ x ∈ lead, x = ' ')
    (hrest : ∀ x ∈ rest.head?, x ≠ ' ' ∧ x ≠ '\t')
    (hstar : ∃ x ∈ (lead ++ rest).head?, x ≠ '*') :
    header.tryAt c =
      some ((((c.past label (':' :: lead ++ rest)).mark 1 c.index)).past (':' :: lead) rest) := by
  obtain ⟨x, hx, hmarks⟩ := (Option.any_eq_true _ _).mp hhead
  simp only [Bool.and_eq_true, Bool.not_eq_true', bne_iff_ne] at hmarks
  obtain ⟨⟨hblank, hnostar⟩, hnohash⟩ := hmarks
  obtain ⟨tail, rfl⟩ := List.head?_eq_some_iff.mp hx
  have hgap : gap.tryAt c = some c := by
    refine tryAt_star_one_of_not fun y hy => ?_
    rw [hc, List.cons_append, List.head?_cons, Option.mem_some_iff] at hy
    exact hy ▸ hblank
  have hmark : (opt headerMark).tryAt c = some c := by
    have hrejects : headerMark.Rejects (· == x) :=
      rejects_headerMark (beq_false_of_ne hnostar.symm) (beq_false_of_ne hnohash.symm)
    exact tryAt_opt_none (hrejects c x _ hc (beq_self_eq_true x))
  have hname := tryAt_group 1 (takes_choice_anyCase hfirst c hc)
  rw [tryAt_header, tryAt_lineStart_append, if_pos hline]
  exact tryAt_append hgap (tryAt_append hmark (tryAt_append hname
    (takes_headerTail hlead hrest hstar _ rfl)))

/-- Every label is read as a name, and its letters are capitals already. -/
theorem label_spec {label : String} (h : label ∈ labels) :
    firstIs label.toList sectionNames = true ∧
      (label.toList.head?.any fun x => !isBlank x && x != '*' && x != '#') = true ∧
      label.toList.map upperChar = label.toList := by
  revert label
  decide

end Headers

/-! ## Texts of sections -/

/-- In a text each line feed has a dash behind it. -/
def Dashed (w : List Char) : Prop :=
  ∀ front back, w = front ++ '\n' :: back → back.head? = some '-'

/-- On one line no other line has to begin with a dash. -/
theorem dashed_of_not_mem {w : List Char} (h : '\n' ∉ w) : Dashed w := by
  rintro front back rfl
  exact absurd (List.mem_append_right front List.mem_cons_self) h

/-- A section of an answer as it is written. -/
structure Section where
  /-- The label. -/
  label : String
  /-- The space between the colon and the text. -/
  lead : List Char
  /-- The text, up to the next section. -/
  body : List Char
  /-- The label is one of a section. -/
  label_mem : label ∈ labels
  /-- Only spaces stand between the colon and the text. -/
  lead_space : ∀ x ∈ lead, x = ' '
  /-- The text does not begin with spaces. -/
  body_head : ∀ x ∈ body.head?, x ≠ ' ' ∧ x ≠ '\t'
  /-- The label does not end in the marks of bold text. -/
  star : ∃ x ∈ (lead ++ body).head?, x ≠ '*'
  /-- Further lines begin with a dash. -/
  dashed : Dashed body

namespace Section

variable (s : Section)

/-- The label with the colon and the space behind it. -/
def head : List Char :=
  s.label.toList ++ ':' :: s.lead

/-- The section as it is written. -/
def text : List Char :=
  s.head ++ s.body

/-- The section as it is read. -/
def part : Part :=
  ⟨s.label.toList, trim s.body⟩

/-- The match of the section's header at a place of an answer. -/
def headerAt (reply : List Char) (index : Nat) : Match :=
  ⟨reply, index, index + s.head.length, [(1, index, index + s.label.toList.length)]⟩

/-- A header does not end with a line feed. -/
theorem getLast?_head : ∃ x, s.head.getLast? = some x ∧ x ≠ '\n' := by
  have hne : ':' :: s.lead ≠ [] := List.cons_ne_nil ':' s.lead
  refine ⟨(':' :: s.lead).getLast hne, ?_, ?_⟩
  · rw [head, List.getLast?_append_of_ne_nil _ hne, List.getLast?_eq_some_getLast hne]
  · rcases List.mem_cons.mp (List.getLast_mem hne) with hlast | hlast
    · rw [hlast]
      decide
    · rw [s.lead_space _ hlast]
      decide

/-- A section does not end with a line feed. -/
theorem getLast?_text : ∃ x, s.text.getLast? = some x ∧ x ≠ '\n' := by
  rw [text, List.getLast?_append]
  cases hlast : s.body.getLast? with
  | none => exact s.getLast?_head
  | some x =>
    refine ⟨x, rfl, ?_⟩
    rintro rfl
    obtain ⟨front, hfront⟩ := List.getLast?_eq_some_iff.mp hlast
    exact absurd (s.dashed front [] hfront) nofun

end Section

/-! ## Searching sections -/

section Search

variable {reply done ending : List Char} {last : Option Nat} {prev : Option Char} {index : Nat}
  {after : List Char}

/-- In the text of a section there is no header. -/
theorem findAllFrom_body (s : Section) {x : Char} (hprev : prev = some x) (hx : x ≠ '\n')
    (after : List Char) :
    header.findAllFrom reply last 0 prev index (s.body ++ after) =
      header.findAllFrom reply last 0 (s.body.getLast?.or prev) (index + s.body.length) after := by
  refine findAllFrom_append fun front y back hsplit => ?_
  rcases List.eq_nil_or_concat' front with rfl | ⟨front, z, rfl⟩
  · exact tryAt_header_inside hprev hx
  · rw [List.getLast?_concat, Option.some_or]
    -- behind a line feed stands a dash, elsewhere no line starts
    by_cases hz : z = '\n'
    · subst hz
      rw [List.append_assoc] at hsplit
      obtain rfl := Option.some.inj (s.dashed front (y :: back) hsplit)
      exact tryAt_header_dash rfl
    · exact tryAt_header_inside rfl hz

/-- The header of a section is read at the start of a line. -/
theorem tryAt_header_section (s : Section) (index : Nat) (hline : prev.all (· == '\n') = true)
    (hafter : ∀ x ∈ after.head?, x = '\n') :
    ∃ d, header.tryAt ⟨prev, s.text ++ after, index, []⟩ = some d ∧
      d.index = index + s.head.length ∧ d.marks = [(1, index, index + s.label.toList.length)] := by
  obtain ⟨hfirst, hhead, -⟩ := label_spec s.label_mem
  have hstar : ∃ x ∈ (s.lead ++ (s.body ++ after)).head?, x ≠ '*' := by
    obtain ⟨x, hx, hne⟩ := s.star
    refine ⟨x, ?_, hne⟩
    rw [← List.append_assoc, List.head?_append, hx]
    rfl
  have hrest : ∀ x ∈ (s.body ++ after).head?, x ≠ ' ' ∧ x ≠ '\t' := by
    intro x hx
    cases hbody : s.body.head? with
    | some y =>
      rw [List.head?_append, hbody, Option.some_or, Option.mem_some_iff] at hx
      exact hx ▸ s.body_head y hbody
    | none =>
      rw [List.head?_append, hbody, Option.none_or] at hx
      rw [hafter x hx]
      decide
  have hsplit : s.text ++ after = s.label.toList ++ (':' :: s.lead ++ (s.body ++ after)) := by
    simp only [Section.text, Section.head, List.append_assoc, List.cons_append]
  refine ⟨_, tryAt_header_label hline hsplit hfirst hhead s.lead_space hrest hstar, ?_, rfl⟩
  rw [Section.head, List.length_append, ← Nat.add_assoc]
  rfl

/-- At the start of a line a section is found by its header, and no other header in it. -/
theorem findAllFrom_section (s : Section) (hline : prev.all (· == '\n') = true)
    (hafter : ∀ x ∈ after.head?, x = '\n') :
    header.findAllFrom reply last 0 prev index (s.text ++ after) =
      s.headerAt reply index ::
        header.findAllFrom reply (some (index + s.head.length)) 0 s.text.getLast?
          (index + s.text.length) after := by
  obtain ⟨d, htry, hstop, hmarks⟩ := tryAt_header_section s index hline hafter
  obtain ⟨x, hx, hne⟩ := s.getLast?_head
  obtain ⟨y, taken, hcons⟩ : ∃ y taken, s.head = y :: taken :=
    List.exists_cons_of_ne_nil (List.append_ne_nil_of_right_ne_nil _ (List.cons_ne_nil _ _))
  have htext : s.text ++ after = y :: (taken ++ (s.body ++ after)) := by
    rw [Section.text, hcons, List.append_assoc, List.cons_append]
  have hprev : taken.getLast?.or (some y) = s.head.getLast? := by
    rw [hcons, List.getLast?_cons]
    cases taken.getLast? <;> rfl
  have hlength : d.index = index + 1 + taken.length := by
    rw [hstop, hcons, List.length_cons, Nat.add_assoc, Nat.add_comm 1]
  rw [htext] at htry ⊢
  rw [findAllFrom_cons_some htry hlength, hmarks, hstop,
    findAllFrom_body s (hprev.trans hx) hne, hprev, ← List.getLast?_append, ← Section.text,
    Nat.add_assoc, ← List.length_append, ← Section.text]
  rfl

/-- Behind the last section there is no header. -/
theorem findAllFrom_ending (h : ∀ x ∈ ending, x = '\n') :
    header.findAllFrom reply last 0 prev index ending = [] := by
  have hcolon {w : List Char} (hw : w <:+ ending) : ':' ∉ w :=
    fun hmem => absurd (h ':' (hw.subset hmem)) (by decide)
  have hnone : header.findAllFrom reply last 0 prev index (ending ++ []) =
      header.findAllFrom reply last 0 (ending.getLast?.or prev) (index + ending.length) [] :=
    findAllFrom_append fun front x back hsplit =>
      tryAt_header_of_not_mem (hcolon ⟨front, by rw [hsplit, List.append_nil]⟩)
  rw [List.append_nil] at hnone
  rw [hnone]
  exact findAllFrom_nil_none (tryAt_header_of_not_mem List.not_mem_nil)

/-- Behind a section and a line feed the search goes on at the start of a line. -/
theorem findAllFrom_section_line (s : Section) (hline : done.getLast?.all (· == '\n') = true)
    (rest : List Char) :
    header.findAllFrom reply last 0 done.getLast? done.length (s.text ++ '\n' :: rest) =
      s.headerAt reply done.length ::
        header.findAllFrom reply (some (done.length + s.head.length)) 0
          (done ++ (s.text ++ ['\n'])).getLast? (done ++ (s.text ++ ['\n'])).length rest := by
  obtain ⟨x, hx, hne⟩ := s.getLast?_text
  have hinside (index : Nat) (tail : List Char) :
      header.tryAt ⟨s.text.getLast?, tail, index, []⟩ = none :=
    tryAt_header_inside hx hne
  have hlast : (done ++ (s.text ++ ['\n'])).getLast? = some '\n' := by
    rw [← List.append_assoc, List.getLast?_concat]
  have hlength : (done ++ (s.text ++ ['\n'])).length = done.length + s.text.length + 1 := by
    rw [List.length_append, List.length_append, List.length_singleton, Nat.add_assoc]
  have hfeed : ∀ y ∈ ('\n' :: rest).head?, y = '\n' := fun y hy => (Option.some.inj hy).symm
  rw [findAllFrom_section s hline hfeed, findAllFrom_cons_none (hinside _ _), hlast, hlength]

/-- What is read of a section that is found, with blanks between its text and the next section. -/
theorem part_headerAt (s : Section) (gap back : List Char) {stop : Nat}
    (hreply : reply = done ++ (s.text ++ (gap ++ back))) (hgap : ∀ x ∈ gap, isBlank x = true)
    (hstop : stop = (done ++ (s.text ++ gap)).length) :
    let m := s.headerAt reply done.length
    (⟨(m.group 1).map upperChar, trim ((reply.drop m.stop).take (stop - m.stop))⟩ : Part) =
      s.part := by
  intro m
  have hgroup : m.group 1 = s.label.toList := by
    have hsplit : m.subject =
        done ++ (s.label.toList ++ (':' :: s.lead ++ (s.body ++ (gap ++ back)))) := by
      change reply = _
      simp only [hreply, Section.text, Section.head, List.append_assoc, List.cons_append]
    exact group_of_span? hsplit rfl
  have htext : (reply.drop m.stop).take (stop - m.stop) = s.body ++ gap := by
    have hsplit : reply = (done ++ s.head) ++ ((s.body ++ gap) ++ back) := by
      rw [hreply, Section.text]
      simp only [List.append_assoc]
    have hhead : m.stop = (done ++ s.head).length := List.length_append.symm
    have hlength : stop = m.stop + (s.body ++ gap).length := by
      rw [hstop, hhead, ← List.length_append, Section.text]
      simp only [List.append_assoc]
    rw [hlength, Nat.add_sub_cancel_left, hhead, hsplit, List.drop_left, List.take_left]
  rw [hgroup, (label_spec s.label_mem).2.2, htext, trim_append_blanks hgap, Section.part]

/-- Sections on lines of their own are found one after the other, each with its label and text. -/
theorem partsFrom_sections (done : List Char) (last : Option Nat) {ss : List Section}
    (hne : ss ≠ []) (hline : done.getLast?.all (· == '\n') = true)
    (hending : ∀ x ∈ ending, x = '\n')
    (hreply : reply = done ++ (joinLines (ss.map Section.text) ++ ending)) :
    ∃ m ms, header.findAllFrom reply last 0 done.getLast? done.length
        (joinLines (ss.map Section.text) ++ ending) = m :: ms ∧
      m.start = done.length ∧ partsFrom reply (m :: ms) = ss.map Section.part := by
  -- `done` is what the search has passed, up to the start of a line
  induction ss generalizing done last with
  | nil => exact absurd rfl hne
  | cons s rest ih =>
    cases rest with
    | nil =>
      have hblank : ∀ x ∈ ending, isBlank x = true := fun x hx => hending x hx ▸ rfl
      have hafter : ∀ x ∈ ending.head?, x = '\n' :=
        fun x hx => hending x (List.mem_of_mem_head? hx)
      rw [List.map_singleton, joinLines_singleton] at hreply ⊢
      refine ⟨_, _, findAllFrom_section s hline hafter, rfl, ?_⟩
      rw [findAllFrom_ending hending]
      refine congrArg (· :: []) (part_headerAt s ending [] ?_ hblank ?_)
      · rw [hreply, List.append_nil]
      · rw [hreply]
        rfl
    | cons next rest =>
      have htext : joinLines ((s :: next :: rest).map Section.text) ++ ending =
          s.text ++ '\n' :: (joinLines ((next :: rest).map Section.text) ++ ending) := by
        rw [List.map_cons, joinLines_cons _ (by simp), List.append_assoc, List.cons_append]
      rw [htext] at hreply ⊢
      have hsplit : reply = (done ++ (s.text ++ ['\n'])) ++
          (joinLines ((next :: rest).map Section.text) ++ ending) := by
        rw [hreply]
        simp only [List.append_assoc, List.cons_append, List.nil_append]
      have hstart : (done ++ (s.text ++ ['\n'])).getLast?.all (· == '\n') = true := by
        rw [← List.append_assoc, List.getLast?_concat]
        rfl
      obtain ⟨m, ms, hfind, hindex, hparts⟩ := ih (done ++ (s.text ++ ['\n']))
        (some (done.length + s.head.length)) (List.cons_ne_nil next rest) hstart hsplit
      refine ⟨_, _, findAllFrom_section_line s hline _, rfl, ?_⟩
      rw [hfind]
      refine List.cons_eq_cons.mpr ⟨part_headerAt s ['\n'] _ hreply ?_ hindex, hparts⟩
      exact List.forall_mem_singleton.mpr rfl

end Search

/-! ## Sections of an answer -/

/-- Sections of different names are all kept. -/
private theorem foldl_distinct (known ps : List Part) (h : ((known ++ ps).map Part.name).Nodup) :
    ps.foldl (fun known p => if known.any fun k => k.name == p.name then known else known ++ [p])
      known = known ++ ps := by
  induction ps generalizing known with
  | nil => exact (List.append_nil known).symm
  | cons p rest ih =>
    have hnew : (known.any fun k => k.name == p.name) = false := by
      rw [List.any_eq_false]
      intro k hk hname
      rw [List.map_append, List.map_cons, List.nodup_append] at h
      exact h.2.2 _ (List.mem_map_of_mem hk) _ List.mem_cons_self (beq_iff_eq.mp hname)
    rw [List.append_cons] at h ⊢
    rw [List.foldl_cons, hnew, if_neg Bool.false_ne_true, ih _ h]

/-- An answer of sections with different labels has these sections and no other. -/
theorem parts_sections {ss : List Section} (hne : ss ≠ [])
    (hlabels : (ss.map Section.label).Nodup) (n : Nat) :
    parts (joinLines (ss.map Section.text) ++ List.replicate n '\n') = ss.map Section.part := by
  have hending : ∀ x ∈ List.replicate n '\n', x = '\n' := fun _ => List.eq_of_mem_replicate
  obtain ⟨m, ms, hfind, -, hparts⟩ := partsFrom_sections [] none hne rfl hending
    (List.nil_append (joinLines (ss.map Section.text) ++ List.replicate n '\n')).symm
  have hall : header.findAll (joinLines (ss.map Section.text) ++ List.replicate n '\n') = m :: ms :=
    hfind
  have hdistinct : (([] ++ ss.map Section.part).map Part.name).Nodup := by
    have hnames : (ss.map Section.part).map Part.name =
        (ss.map Section.label).map String.toList := by
      rw [List.map_map, List.map_map]
      rfl
    rw [List.nil_append, hnames]
    exact hlabels.map fun _ _ => String.toList_injective
  rw [parts, hall, hparts]
  exact foldl_distinct [] _ hdistinct

/-- A section is found by its label. -/
theorem part?_sections {ss : List Section} {s : Section}
    (hlabels : (ss.map Section.label).Nodup) (hs : s ∈ ss) :
    part? (ss.map Section.part) s.label = some (trim s.body) := by
  induction ss with
  | nil => cases hs
  | cons first rest ih =>
    obtain ⟨hfirst, hrest⟩ := List.nodup_cons.mp hlabels
    rw [part?, List.map_cons, List.find?_cons]
    rcases List.mem_cons.mp hs with rfl | hs
    · rw [Section.part, beq_self_eq_true]
      rfl
    · have hne : (first.part.name == s.label.toList) = false := by
        have hmem : s.label ∈ rest.map Section.label := List.mem_map_of_mem hs
        refine beq_false_of_ne fun heq => hfirst ?_
        rwa [← String.toList_injective heq] at hmem
      rw [hne]
      exact ih hrest hs

end Adjudicator.Answer
