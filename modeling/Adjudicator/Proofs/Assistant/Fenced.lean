import Adjudicator.Proofs.Assistant.RoundTrip
import Adjudicator.Proofs.Pattern.Occurrences

/-!
# Proposed code between fences

A proposal of code stands between fences in its section, and an explanation follows. Main statement:
the code is read back whatever its lines look like, and the explanation is read back when no heading
of an explanation begins at a line of the code. A heading may run over several lines.
-/

namespace Adjudicator.Answer

open Text Pattern Cursor

/-! ## Headings -/

section Headings

variable {L M : CharLanguage} {accepts : Char → Bool} {s w t back : List Char} {x : Char} {m : Match}
  {name : String}

/-- The marks of bold text or of a heading. -/
def marks : CharLanguage :=
  {"**".toList} + single (· == '#') * several (· == '#') * several isBlank

/-- The end of bold text. -/
def stars : CharLanguage :=
  {"**".toList} + 1

/-- What stands in front of a name in a header. -/
def leads : CharLanguage :=
  several isBlank * (marks + 1)

/-- The headings of a section, up to the colon. Their blanks may be line ends. -/
def heading (name : String) : CharLanguage :=
  leads * (folded name.toList * (stars * (several isBlank * {":".toList})))

/-- A heading of a section begins a text. -/
def Heads (name : String) (s : List Char) : Prop :=
  ∃ h ∈ heading name, h <+: s

/-- What stands behind a name in a header. -/
def tails : CharLanguage :=
  stars * (several isBlank * ({":".toList} * (stars * several " \t".toList.contains)))

/-- The marks in front of a name are those of bold text or of a heading. -/
theorem reads_headerMark : headerMark.Reads marks := by
  have hhashes : ((text "#").plus ++ gap).Reads
      (single (· == '#') * several (· == '#') * several isBlank) :=
    reads_append reads_plus_one reads_star_one
  exact reads_either (reads_text "**") hhashes

/-- Behind a name stand the end of bold text and a colon, with blanks around them. -/
theorem reads_headerTail : headerTail.Reads tails :=
  reads_append (reads_opt (reads_text "**")) (reads_append reads_star_one
    (reads_append (reads_text ":") (reads_append (reads_opt (reads_text "**")) reads_star_one)))

/-- A header consists of what stands in front of the name, the name and what stands behind it. -/
theorem exists_name_of_fits (h : header.Fits s m) :
    ∃ front, ∃ lead ∈ leads, ∃ word ∈ spelling sectionNames, ∃ tail ∈ tails, ∃ rest,
      s = front ++ (lead ++ (word ++ (tail ++ rest))) ∧ m.start = front.length ∧
      m.stop = front.length + (lead ++ (word ++ tail)).length ∧ m.group 1 = word := by
  have hparts : ((lineStart ++ (gap ++ opt headerMark)) ++
      group 1 (choice (sectionNames.map anyCase)) ++ headerTail).Fits s m :=
    h
  have hlead : (lineStart ++ (gap ++ opt headerMark)).ReadsOnly (1 * leads) :=
    readsOnly_look.append (reads_append reads_star_one (reads_opt reads_headerMark)).only
  obtain ⟨front, lead, hlead, word, hword, tail, htail, rest, hs, hstart, hstop, -, -, hgroup⟩ :=
    hparts.exists_group hlead (reads_choice_anyCase sectionNames).only reads_headerTail.only
  rw [one_mul] at hlead
  refine ⟨front, lead, hlead, word, hword, tail, htail, rest, ?_, hstart, hstop, hgroup⟩
  rw [hs, List.append_assoc]

/-! ### Characters of headings -/

/-- The words of a language do not have a character. -/
def Avoids (L : CharLanguage) (x : Char) : Prop :=
  ∀ w ∈ L, x ∉ w

/-- The empty word has no character. -/
theorem avoids_one (x : Char) : Avoids 1 x := by
  rintro _ rfl
  exact List.not_mem_nil

/-- A word avoids the characters that do not occur in it. -/
theorem avoids_singleton (h : x ∉ w) : Avoids {w} x := by
  rintro _ rfl
  exact h

/-- Words over a class avoid the characters outside of it. -/
theorem avoids_several (h : accepts x = false) : Avoids (several accepts) x := by
  intro w hw hx
  rw [hw x hx] at h
  cases h

/-- Words of one character of a class avoid the characters outside of it. -/
theorem avoids_single (h : accepts x = false) : Avoids (single accepts) x := by
  rintro _ ⟨y, hy, rfl⟩ hx
  rw [List.mem_singleton.mp hx, hy] at h
  cases h

/-- What the words of two languages avoid, the words of either avoid. -/
theorem Avoids.add (hL : Avoids L x) (hM : Avoids M x) : Avoids (L + M) x :=
  fun w hw => hw.elim (hL w) (hM w)

/-- What the words of two languages avoid, their concatenations avoid. -/
theorem Avoids.mul (hL : Avoids L x) (hM : Avoids M x) : Avoids (L * M) x := by
  rintro _ ⟨v, hv, w, hw, rfl⟩
  rw [List.mem_append, not_or]
  exact ⟨hL v hv, hM w hw⟩

/-- The forms of a word avoid every character that is a form of none of its letters. -/
theorem avoids_folded {cs : List Char} (h : ∀ c ∈ cs, sameFolded c x = false) :
    Avoids (folded cs) x := by
  induction cs with
  | nil => exact folded_nil ▸ avoids_one x
  | cons c cs ih =>
    obtain ⟨hc, hcs⟩ := List.forall_mem_cons.mp h
    exact folded_cons c cs ▸ (avoids_single hc).mul (ih hcs)

/-- No backtick stands in front of the name in a header. -/
theorem avoids_leads : Avoids leads Code.backtick := by
  have hmarks : Avoids marks Code.backtick :=
    (avoids_singleton (by decide)).add
      (((avoids_single (by decide)).mul (avoids_several (by decide))).mul
        (avoids_several (by decide)))
  exact (avoids_several (by decide)).mul (hmarks.add (avoids_one _))

/-- No backtick stands in the end of bold text. -/
theorem avoids_stars : Avoids stars Code.backtick :=
  (avoids_singleton (by decide)).add (avoids_one _)

/-- No backtick stands behind the name in a header. -/
theorem avoids_tails : Avoids tails Code.backtick :=
  avoids_stars.mul ((avoids_several (by decide)).mul ((avoids_singleton (by decide)).mul
    (avoids_stars.mul (avoids_several (by decide)))))

/-- No form of a name has a backtick. -/
theorem avoids_name (hname : name ∈ sectionNames) : Avoids (folded name.toList) Code.backtick := by
  have hall : ∀ name ∈ sectionNames, name.toList.any (sameFolded · Code.backtick) = false := by
    decide
  exact avoids_folded fun c hc =>
    Bool.eq_false_iff.mpr (List.any_eq_false.mp (hall name hname) c hc)

/-! ### Names of headings -/

/-- The lower-case letters of ASCII are a range of code points. -/
theorem isAsciiLower_iff : isAsciiLower x = true ↔ 97 ≤ x.toNat ∧ x.toNat ≤ 122 := by
  rw [isAsciiLower, Bool.and_eq_true, decide_eq_true_eq, decide_eq_true_eq]
  exact Iff.rfl

/-- The forms of a letter have one capital, the Kelvin sign apart. -/
theorem upperChar_of_sameFolded {c : Char} (hc : c ≠ 'k') (h : sameFolded c x = true) :
    upperChar x = upperChar c := by
  simp only [sameFolded, Bool.or_eq_true, beq_iff_eq, Bool.and_eq_true] at h
  rcases h with ((rfl | ⟨hlower, hx⟩) | ⟨rfl, -⟩) | ⟨rfl, hx⟩
  · rfl
  · have hrange := isAsciiLower_iff.mp hlower
    have hupper : ¬isAsciiLower x = true := by
      rw [isAsciiLower_iff]
      omega
    have hlong : x.toNat ≠ 0x17F := by omega
    rw [upperChar, if_neg hupper, if_neg hlong, upperChar, if_pos hlower, ← hx,
      Nat.add_sub_cancel, Char.ofNat_toNat]
  · exact absurd rfl hc
  · have hlower : ¬isAsciiLower x = true := by
      rw [isAsciiLower_iff]
      omega
    rw [upperChar, if_neg hlower, if_pos hx]
    decide

/-- The forms of a name have one spelling in capitals. -/
theorem map_upperChar_of_mem_folded {cs : List Char} (hcs : 'k' ∉ cs) (h : w ∈ folded cs) :
    w.map upperChar = cs.map upperChar := by
  induction h with
  | nil => rfl
  | cons hx _ ih =>
    obtain ⟨hc, hcs⟩ := not_or.mp (mt List.mem_cons.mpr hcs)
    rw [List.map_cons, List.map_cons, upperChar_of_sameFolded (Ne.symm hc) hx, ih hcs]

/-- Only the forms of a label's own name have the label as their spelling in capitals. -/
theorem mem_folded_explanation (hw : w ∈ spelling sectionNames)
    (hcapitals : w.map upperChar = "EXPLANATION".toList) : w ∈ folded "explanation".toList := by
  obtain ⟨name, hname, hw⟩ := mem_spelling.mp hw
  have hk : ∀ name ∈ sectionNames, 'k' ∉ name.toList := by decide
  have hspelled : ∀ name ∈ sectionNames,
      name.toList.map upperChar = "EXPLANATION".toList → name = "explanation" := by
    decide
  rw [map_upperChar_of_mem_folded (hk name hname) hw] at hcapitals
  rwa [← hspelled name hname hcapitals]

/-- The header of an explanation stands where a heading of one begins. -/
theorem heads_of_fits (h : header.Fits s m)
    (hname : (m.group 1).map upperChar = "EXPLANATION".toList) :
    ∃ front back, s = front ++ back ∧ m.start = front.length ∧ Heads "explanation" back := by
  obtain ⟨front, lead, hlead, word, hword, tail, htail, rest, hs, hstart, -, rfl⟩ :=
    exists_name_of_fits h
  obtain ⟨starred, hstarred, _, ⟨blanks, hblanks, _, ⟨_, rfl, behind, hbehind, rfl⟩, rfl⟩, rfl⟩ :=
    htail
  refine ⟨front, _, hs, hstart, lead ++ (m.group 1 ++ (starred ++ (blanks ++ ":".toList))), ?_,
    behind ++ rest, ?_⟩
  · exact ⟨lead, hlead, _, ⟨_, mem_folded_explanation hword hname, _,
      ⟨starred, hstarred, _, ⟨blanks, hblanks, _, rfl, rfl⟩, rfl⟩, rfl⟩, rfl⟩
  · simp only [List.append_assoc]

/-- Whether a character begins headings of explanations. -/
def beginsHeading (x : Char) : Bool :=
  isBlank x || x == '*' || x == '#' || sameFolded 'e' x

/-- A heading begins with a blank, a mark or a form of the first letter of its name. -/
theorem beginsHeading_of_heads {rest : List Char} (h : Heads "explanation" (x :: rest)) :
    beginsHeading x = true := by
  obtain ⟨_, ⟨_, ⟨blanks, hblanks, mark, hmark, rfl⟩, _, ⟨word, hword, tail, -, rfl⟩, rfl⟩, hhead⟩ :=
    h
  obtain ⟨e, word, he, -, rfl⟩ := List.forall₂_cons_left_iff.mp hword
  simp only [beginsHeading, Bool.or_eq_true, beq_iff_eq]
  cases blanks with
  | cons b blanks =>
    obtain rfl : b = x := (List.cons_prefix_cons.mp hhead).1
    exact .inl (.inl (.inl (hblanks b List.mem_cons_self)))
  | nil =>
    rcases hmark with (rfl | ⟨_, ⟨_, ⟨y, hy, rfl⟩, _, -, rfl⟩, _, -, rfl⟩) | rfl
    · exact .inl (.inl (.inr (List.cons_prefix_cons.mp hhead).1.symm))
    · obtain rfl : y = x := (List.cons_prefix_cons.mp hhead).1
      exact .inl (.inr (beq_iff_eq.mp hy))
    · obtain rfl : e = x := (List.cons_prefix_cons.mp hhead).1
      exact .inr he

/-- A heading does not reach over a line feed and a backtick behind it. -/
theorem Heads.of_append (h : Heads "explanation" (s ++ '\n' :: Code.backtick :: t)) :
    Heads "explanation" s := by
  obtain ⟨w, hw, hprefix⟩ := h
  have havoid : Avoids (heading "explanation") Code.backtick :=
    avoids_leads.mul ((avoids_name (by decide)).mul
      (avoids_stars.mul ((avoids_several (by decide)).mul (avoids_singleton (by decide)))))
  rw [List.append_cons] at hprefix
  refine ⟨w, hw, ?_⟩
  rcases List.prefix_concat_iff.mp (prefix_of_prefix_append_cons (havoid w hw) hprefix) with
    rfl | hshort
  · -- a heading ends with its colon
    obtain ⟨lead, -, _, ⟨word, -, _, ⟨starred, -, _, ⟨blanks, -, _, rfl, rfl⟩, rfl⟩, rfl⟩, hend⟩ := hw
    have hlast := congrArg List.getLast? hend
    simp at hlast
  · exact hshort

/-! ### Places of headers -/

/-- A line of a text begins in front of the rest of the text. -/
def LineStart (s back : List Char) : Prop :=
  back = s ∨ ∃ front, s = front ++ '\n' :: back

/-- Without a line feed the only line begins at the start. -/
theorem lineStart_iff_of_not_mem (h : '\n' ∉ s) : LineStart s back ↔ back = s := by
  refine or_iff_left ?_
  rintro ⟨front, rfl⟩
  exact h (List.mem_append_right front List.mem_cons_self)

/-- The lines of two texts around a line feed begin in the first or in the second one. -/
theorem LineStart.of_append_feed (h : LineStart (s ++ '\n' :: t) back) :
    (∃ behind, LineStart s behind ∧ back = behind ++ '\n' :: t) ∨ LineStart t back := by
  rcases h with rfl | ⟨front, hsplit⟩
  · exact .inl ⟨s, .inl rfl, rfl⟩
  · rcases List.append_eq_append_iff.mp hsplit with ⟨more, rfl, hmore⟩ | ⟨more, rfl, hmore⟩
    · cases more with
      | nil => exact .inr (.inl (List.cons.inj hmore).2.symm)
      | cons y more => exact .inr (.inr ⟨more, (List.cons.inj hmore).2⟩)
    · cases more with
      | nil => exact .inr (.inl (List.cons.inj hmore).2)
      | cons y more =>
        obtain ⟨rfl, hback⟩ := List.cons.inj hmore
        exact .inl ⟨more, .inr ⟨front, rfl⟩, hback⟩

/-- A header stands at the start of a line. -/
theorem lineStart_of_fits {front : List Char} (h : header.Fits (front ++ back) m)
    (hstart : m.start = front.length) : LineStart (front ++ back) back := by
  obtain ⟨front', back', d, hsplit, htry, rfl⟩ := h
  obtain ⟨rfl, rfl⟩ := List.append_inj hsplit hstart.symm
  rcases List.eq_nil_or_concat' front with rfl | ⟨front, x, rfl⟩
  · exact .inl rfl
  · by_cases hx : x = '\n'
    · subst hx
      exact .inr ⟨front, List.append_assoc ..⟩
    · have hprev : (between (front ++ [x]) back).prev = some x := List.getLast?_concat
      rw [tryAt_header_inside hprev hx] at htry
      cases htry

/-- No header reaches over a backtick. -/
theorem stop_le_of_fits {front : List Char} (h : header.Fits (front ++ Code.backtick :: back) m)
    (hstart : m.start ≤ front.length) : m.stop ≤ front.length := by
  obtain ⟨before, lead, hlead, word, hword, tail, htail, rest, hsplit, hbefore, hstop, -⟩ :=
    exists_name_of_fits h
  obtain ⟨name, hname, hword⟩ := mem_spelling.mp hword
  have havoid : Code.backtick ∉ lead ++ (word ++ tail) := by
    simp only [List.mem_append, not_or]
    exact ⟨avoids_leads lead hlead, avoids_name hname word hword, avoids_tails tail htail⟩
  have hprefix : before <+: front := by
    refine List.prefix_of_prefix_length_le ⟨_, hsplit.symm⟩ (List.prefix_append front _) ?_
    rwa [← hbefore]
  obtain ⟨more, rfl⟩ := hprefix
  rw [List.append_assoc] at hsplit
  have htaken : lead ++ (word ++ tail) <+: more ++ Code.backtick :: back :=
    ⟨rest, by rw [List.append_cancel_left hsplit, List.append_assoc, List.append_assoc]⟩
  have hlength := (prefix_of_prefix_append_cons havoid htaken).length_le
  have hsum : (before ++ more).length = before.length + more.length := List.length_append
  omega

end Headings

/-! ## Sections -/

section Parts

variable {reply : List Char} {m : Match} {ms : List Match}

/-- Of several sections of a name the first one counts. -/
private theorem find?_foldl (name : List Char) (known ps : List Part) :
    (ps.foldl (fun known p => if known.any fun k => k.name == p.name then known else known ++ [p])
      known).find? (fun p => p.name == name) = (known ++ ps).find? fun p => p.name == name := by
  induction ps generalizing known with
  | nil => rw [List.foldl_nil, List.append_nil]
  | cons p ps ih =>
    rw [List.foldl_cons, ih]
    split
    next hknown =>
      rw [List.find?_append, List.find?_append, List.find?_cons]
      cases hname : p.name == name with
      | false => rfl
      | true =>
        have hsome : (known.find? fun p => p.name == name).isSome = true := by
          rw [List.find?_isSome]
          obtain ⟨k, hk, hsame⟩ := List.any_eq_true.mp hknown
          exact ⟨k, hk, by rwa [beq_iff_eq.mp hsame]⟩
        obtain ⟨k, hk⟩ := Option.isSome_iff_exists.mp hsome
        rw [hk, Option.some_or, Option.some_or]
    next => rw [List.append_assoc, List.singleton_append]

/-- The parts of an answer are looked up by the headers that are found in it. -/
theorem part?_parts (reply : List Char) (name : String) :
    part? (parts reply) name =
      ((partsFrom reply (header.findAll reply)).find? fun p => p.name == name.toList).map
        Part.text := by
  rw [part?, parts, find?_foldl, List.nil_append]

/-- A section whose header alone has its name goes from there to the end. -/
theorem find?_partsFrom_concat {name : List Char}
    (hms : ∀ m ∈ ms, (m.group 1).map upperChar ≠ name) (hm : (m.group 1).map upperChar = name) :
    (partsFrom reply (ms ++ [m])).find? (fun p => p.name == name) =
      some ⟨name, trim ((reply.drop m.stop).take (reply.length - m.stop))⟩ := by
  induction ms with
  | nil =>
    rw [List.nil_append, partsFrom, hm, List.find?_cons, beq_self_eq_true]
    rfl
  | cons m' ms ih =>
    obtain ⟨hm', hms⟩ := List.forall_mem_cons.mp hms
    rw [List.cons_append, partsFrom, List.find?_cons, beq_false_of_ne hm']
    exact ih hms

/-- A section on the last line, behind a backtick, is the last one that is found. -/
theorem exists_findAll_concat (front : List Char) (s : Section) :
    ∃ inner, header.findAll (front ++ [Code.backtick] ++ '\n' :: s.text) =
        inner ++ [s.headerAt (front ++ [Code.backtick] ++ '\n' :: s.text)
          (front ++ [Code.backtick] ++ ['\n']).length] ∧
      ∀ m ∈ inner, header.Fits (front ++ [Code.backtick] ++ '\n' :: s.text) m ∧
        m.start < (front ++ [Code.backtick]).length := by
  have hlength : (front ++ [Code.backtick]).length = front.length + 1 := by
    rw [List.length_append, List.length_singleton]
  have hcross : ∀ m, header.Fits (front ++ [Code.backtick] ++ '\n' :: s.text) m →
      m.start < (front ++ [Code.backtick]).length → m.stop ≤ (front ++ [Code.backtick]).length := by
    intro m hm hstart
    rw [List.append_assoc, List.singleton_append] at hm
    have hstop := stop_le_of_fits hm (by omega)
    omega
  obtain ⟨inner, last, hall, hinner⟩ := findAll_append hcross
  refine ⟨inner, ?_, hinner⟩
  have hend : ∀ x ∈ ([] : List Char), x = '\n' := nofun
  have hafter : ∀ x ∈ ([] : List Char).head?, x = '\n' := nofun
  have hsection {reply : List Char} {index : Nat} :
      header.findAllFrom reply last 0 (some '\n') index s.text = [s.headerAt reply index] := by
    rw [← List.append_nil s.text, findAllFrom_section s rfl hafter, findAllFrom_ending hend]
  have hlast : (front ++ [Code.backtick] ++ ['\n']).length =
      (front ++ [Code.backtick]).length + 1 :=
    List.length_append
  rw [hall, List.getLast?_concat, findAllFrom_cons_none (tryAt_header_inside rfl (by decide)),
    hsection, hlast]

/-- Behind sections of other names the section on the last line is the one of its name. -/
theorem find?_of_last {done : List Char} (s : Section) (hreply : reply = done ++ '\n' :: s.text)
    (hms : ∀ m ∈ ms, (m.group 1).map upperChar ≠ s.label.toList) :
    (partsFrom reply (ms ++ [s.headerAt reply (done ++ ['\n']).length])).find?
      (fun p => p.name == s.label.toList) = some s.part := by
  have hsplit : reply = (done ++ ['\n']) ++ (s.text ++ ([] ++ [])) := by
    rw [hreply, List.append_nil, List.append_assoc, List.singleton_append, List.append_nil]
  have hend : reply.length = (done ++ ['\n'] ++ (s.text ++ [])).length := by
    rw [hsplit, List.append_nil]
  have hpart := part_headerAt s [] [] hsplit (List.forall_mem_nil _) hend
  rw [find?_partsFrom_concat hms (congrArg Part.name hpart)]
  exact congrArg (fun text => some (Part.mk s.label.toList text)) (congrArg Part.text hpart)

end Parts

/-! ## Code between fences -/

/-- A proposal of code with an explanation. -/
structure FencedFix where
  /-- The language of the code. -/
  tag : List Char
  /-- The code. -/
  code : List Char
  /-- Why it helps. -/
  explanation : String
  /-- A language is written in letters, digits, plus and minus signs. -/
  tag_chars : ∀ c ∈ tag, (isWord c || c == '+' || c == '-') = true
  /-- Some code is there. -/
  not_blank : blank code = false
  /-- The code does not end in blanks. -/
  trimmed : trimEnd code = code
  /-- The code has no fence in it. -/
  no_fence : ¬Prompt.fence.toList <:+: code
  /-- The explanation is a text of one line. -/
  plain : Plain explanation

namespace FencedFix

variable (f : FencedFix) {s front rest : List Char}

/-- The code between its fences. -/
def block : List Char :=
  Prompt.fence.toList ++ (f.tag ++ '\n' :: (f.code ++ '\n' :: Prompt.fence.toList))

/-- The proposal as an answer. -/
def written : List Char :=
  "SUGGESTION:".toList ++
    '\n' :: (f.block ++ '\n' :: writtenText "EXPLANATION" f.explanation)

/-- The pattern of a code block is an opening, the code and a closing fence. -/
theorem tryAt_fencedCode : fencedCode.tryAt =
    ((text Prompt.fence ++ ((wordOr "+-").star ++ ((anyOf " \t").star ++ text "\n"))) ++
      (group 1 anything.starLazy ++ text Prompt.fence)).tryAt :=
  rfl

/-- A fence is three backticks. -/
theorem toList_fence :
    Prompt.fence.toList = Code.backtick :: [Code.backtick, Code.backtick] :=
  String.toList_ofList

/-- A fence has no line feed. -/
theorem newline_not_mem_fence : '\n' ∉ Prompt.fence.toList := by
  decide

/-- No fence ends in the code before the one behind it. -/
theorem fresh_code : Fresh Prompt.fence.toList (f.code ++ ['\n']) :=
  fresh_concat newline_not_mem_fence f.no_fence

/-- No fence ends in language and code before the one behind them. -/
theorem fresh_tag_code : Fresh Prompt.fence.toList ((f.tag ++ '\n' :: f.code) ++ ['\n']) := by
  refine fresh_concat newline_not_mem_fence fun h => ?_
  rcases infix_or_of_infix_append_cons newline_not_mem_fence h with htag | hcode
  · have hmem : Code.backtick ∈ f.tag := htag.subset (by decide)
    exact absurd (f.tag_chars _ hmem) (by decide)
  · exact f.no_fence hcode

/-- A lazy repetition takes what stands in front of the next fence. -/
theorem starLazy_before_fence {taken : List Char} (h : Fresh Prompt.fence.toList taken)
    (rest : List Char) :
    anything.starLazy.TakesBefore (text Prompt.fence) taken (Prompt.fence.toList ++ rest) := by
  intro number c d hc hd
  change anything.starLazy.run c (fun e => (text Prompt.fence).tryAt (e.mark number c.index)) =
    some d
  refine run_starLazy_one hc (fun _ _ => rfl) (fun fewer more hsplit hmore => ?_) hd
  refine tryAt_chars_none fun hprefix => hmore ?_
  subst hsplit
  exact h.of_append.eq_nil hprefix

/-- The fence in front of the code, with the language and the line feed. -/
def opening : List Char :=
  Prompt.fence.toList ++ (f.tag ++ ([] ++ "\n".toList))

/-- A block begins with its opening, and its code ends in front of a fence. -/
theorem block_append (rest : List Char) :
    f.block ++ rest = f.opening ++ ((f.code ++ ['\n']) ++ (Prompt.fence.toList ++ rest)) := by
  simp [block, opening]

/-- A block consists of the fence with the language, the lines of the code and the closing fence. -/
theorem block_append_lines (rest : List Char) :
    f.block ++ rest = Prompt.fence.toList ++ f.tag ++
      '\n' :: (f.code ++ '\n' :: (Prompt.fence.toList ++ rest)) := by
  simp [block]

/-- The opening of a block is taken up to its line feed. -/
theorem takes_opening (rest : List Char) :
    (text Prompt.fence ++ ((wordOr "+-").star ++ ((anyOf " \t").star ++ text "\n"))).Takes f.opening
      rest := by
  have htag : (wordOr "+-").star.Takes f.tag ([] ++ "\n".toList ++ rest) := by
    refine takes_star_one (fun c hc => ?_) fun c hc => ?_
    · have hchar := f.tag_chars c hc
      simp only [Bool.or_eq_true, beq_iff_eq] at hchar ⊢
      rcases hchar with (hword | rfl) | rfl
      · exact .inl hword
      · exact .inr rfl
      · exact .inr rfl
    · obtain rfl := Option.some.inj hc
      decide
  have hspaces : (anyOf " \t").star.Takes [] ("\n".toList ++ rest) := by
    refine takes_star_one (List.forall_mem_nil _) fun c hc => ?_
    obtain rfl := Option.some.inj hc
    decide
  exact (takes_text Prompt.fence).append (htag.append (hspaces.append (takes_text "\n")))

/-- In front of the first backtick there is no code. -/
theorem tryAt_fencedCode_none {c : Cursor} {x : Char} (hc : c.rest = x :: rest)
    (hx : x ≠ Code.backtick) : fencedCode.tryAt c = none := by
  rw [tryAt_fencedCode]
  refine tryAt_append_none (tryAt_append_none (tryAt_chars_none ?_))
  rw [hc]
  rintro ⟨more, hmore⟩
  exact hx (List.cons.inj hmore).1.symm

/-- The code of the first block is read, whatever stands behind the block. -/
theorem codeBlock?_block (hfront : Code.backtick ∉ front) (rest : List Char) :
    codeBlock? (front ++ (f.block ++ rest)) = some f.code := by
  have hnone (a b : List Char) (hsplit : front = a ++ b) (hb : b ≠ []) :
      fencedCode.tryAt (between a (b ++ (f.block ++ rest))) = none := by
    obtain ⟨x, b, rfl⟩ := List.exists_cons_of_ne_nil hb
    refine tryAt_fencedCode_none rfl ?_
    rintro rfl
    exact hfront (hsplit ▸ List.mem_append_right a List.mem_cons_self)
  obtain ⟨d, htry, hmarks⟩ : ∃ d, fencedCode.tryAt (between front (f.block ++ rest)) = some d ∧
      d.marks = [(1, front.length + f.opening.length,
        front.length + f.opening.length + (f.code ++ ['\n']).length)] := by
    rw [block_append, tryAt_fencedCode]
    exact ⟨_, tryAt_append (f.takes_opening _ _ rfl)
      (starLazy_before_fence f.fresh_code rest 1 _ _ rfl (takes_text Prompt.fence _ rfl)), rfl⟩
  have hgroup : (⟨front ++ (f.block ++ rest), front.length, d.index, d.marks⟩ : Match).group 1 =
      f.code ++ ['\n'] := by
    have hsplit : front ++ (f.block ++ rest) =
        (front ++ f.opening) ++ ((f.code ++ ['\n']) ++ (Prompt.fence.toList ++ rest)) := by
      rw [block_append, ← List.append_assoc]
    refine group_of_span? hsplit ?_
    have hlength : (front ++ f.opening).length = front.length + f.opening.length :=
      List.length_append
    rw [Match.span?, hmarks, hlength]
    rfl
  have htrim : trimEnd (f.code ++ ['\n']) = f.code := by
    rw [trimEnd, dropEndWhile_append (List.forall_mem_singleton.mpr rfl), ← trimEnd, f.trimmed]
  rw [codeBlock?, find?_of_between hnone htry, Option.map_some, hgroup, htrim,
    Option.filter_some, f.not_blank]
  rfl

/-- What is found between fences stands between two of them. -/
theorem exists_fences (h : fencedCode.found s = true) :
    ∃ a b c, s = a ++ (Prompt.fence.toList ++ (b ++ (Prompt.fence.toList ++ c))) := by
  have hfence : (text Prompt.fence).Passes {Prompt.fence.toList} := (reads_text _).passes
  obtain ⟨a, back, d, rfl, hd⟩ := found_iff.mp h
  obtain ⟨_, ⟨_, ⟨_, ⟨_, ⟨_, ⟨_, rfl, tag, -, rfl⟩, spaces, -, rfl⟩, feed, -, rfl⟩, code, -, rfl⟩,
    _, rfl, rfl⟩, hback⟩ :=
    ((((hfence.append (passes_any _)).append (passes_any _)).append (passes_any _)).append
      (passes_any _)).append hfence _ d hd
  refine ⟨a, tag ++ (spaces ++ (feed ++ code)), d.rest, ?_⟩
  obtain rfl : back = _ := hback
  simp only [List.append_assoc]

/-- In a text that begins like a block there is no other code than that of the block. -/
theorem codeBlock?_of_prefix (h : s <+: f.block ++ rest) :
    codeBlock? s = none ∨ codeBlock? s = some f.code := by
  by_cases hfound : fencedCode.found s = true
  · obtain ⟨a, b, c, hs⟩ := exists_fences hfound
    right
    rcases List.prefix_or_prefix_of_prefix h (List.prefix_append f.block rest) with hshort | hlong
    · -- the second fence in a part of the block can only be the last one of the block
      obtain ⟨u, hu⟩ := hshort
      have hblock : Prompt.fence.toList ++ ((f.tag ++ '\n' :: f.code) ++ ['\n'] ++
          Prompt.fence.toList) = a ++ (Prompt.fence.toList ++ (b ++ (Prompt.fence.toList ++
            (c ++ u)))) := by
        rw [hs] at hu
        simpa [block] using hu.symm
      obtain ⟨-, rfl⟩ := List.append_eq_nil_iff.mp (f.fresh_tag_code.eq_nil_of_twice hblock)
      have hcode : codeBlock? ([] ++ (f.block ++ [])) = some f.code :=
        f.codeBlock?_block List.not_mem_nil []
      rwa [List.nil_append, List.append_nil, ← hu, List.append_nil] at hcode
    · obtain ⟨more, rfl⟩ := hlong
      exact f.codeBlock?_block List.not_mem_nil more
  · left
    rw [found, Bool.not_eq_true, Option.isSome_eq_false_iff, Option.isNone_iff_eq_none] at hfound
    rw [codeBlock?, hfound]
    rfl

/-! ## Sections of the answer -/

/-- The answer up to the end of the block. -/
def head : List Char :=
  "SUGGESTION:".toList ++ '\n' :: f.block

/-- A proposal is written as its block with the explanation behind it. -/
theorem written_eq_head : f.written = f.head ++ '\n' :: writtenText "EXPLANATION" f.explanation :=
  (List.append_assoc "SUGGESTION:".toList ('\n' :: f.block) _).symm

/-- A line feed in front of a text is trimmed, and of the text only its end. -/
theorem trim_take_prefix (hs : ∀ c ∈ s.head?, isBlank c = false) (n : ℕ) :
    trim (('\n' :: s).take n) <+: s := by
  cases n with
  | zero => exact List.nil_prefix
  | succ n =>
    have htrim : trim (['\n'] ++ s.take n) = trim (s.take n) :=
      trim_blanks_append (List.forall_mem_singleton.mpr rfl) _
    have hstart : trimStart (s.take n) = s.take n := by
      refine trimStart_eq_self fun c hc => hs c ?_
      rw [List.head?_take] at hc
      split at hc
      · cases hc
      · exact hc
    have hend : trimEnd (s.take n) <+: s.take n := List.rdropWhile_prefix _ _
    rw [List.take_succ_cons, ← List.singleton_append, htrim, trim, hstart]
    exact hend.trans (List.take_prefix n s)

/-- A proposal on the lines behind its label is the first section. -/
theorem exists_partsFrom_suggestion {reply behind : List Char}
    (hreply : reply = "SUGGESTION".toList ++ (':' :: [] ++ '\n' :: behind)) :
    ∃ stop rest, partsFrom reply (header.findAll reply) =
      ⟨"SUGGESTION".toList, trim (('\n' :: behind).take stop)⟩ :: rest := by
  obtain ⟨d, htry, hindex, hmarks⟩ : ∃ d, header.tryAt (.start reply) = some d ∧ d.index = 11 ∧
      d.marks = [(1, 0, 10)] := by
    refine ⟨_, tryAt_header_label rfl hreply (by decide) (by decide) nofun ?_ ?_,
      rfl, rfl⟩
    · intro x hx
      rw [← Option.some.inj hx]
      decide
    · exact ⟨'\n', rfl, by decide⟩
  obtain ⟨ms, hms⟩ : ∃ ms, header.findAll reply = ⟨reply, 0, d.index, d.marks⟩ :: ms := by
    have hcons : reply = 'S' :: ("UGGESTION:".toList ++ '\n' :: behind) := hreply
    exact exists_findAll_cons hcons htry hindex
  have hgroup : (⟨reply, 0, 11, [(1, 0, 10)]⟩ : Match).group 1 = "SUGGESTION".toList := by
    rw [hreply]
    exact group_eq [] "SUGGESTION".toList _
  have hdrop : reply.drop 11 = '\n' :: behind := by
    rw [hreply]
    rfl
  rw [hms, hindex, hmarks, partsFrom, hgroup, hdrop]
  exact ⟨_, _, rfl⟩

/-- The proposal is the first section, and its text begins like the block. -/
theorem proposal_prefix (f : FencedFix) :
    partText (parts f.written) "SUGGESTION" <+:
      f.block ++ '\n' :: writtenText "EXPLANATION" f.explanation := by
  have hwritten : f.written = "SUGGESTION".toList ++ (':' :: [] ++ '\n' ::
      (f.block ++ '\n' :: writtenText "EXPLANATION" f.explanation)) :=
    rfl
  obtain ⟨stop, rest, hparts⟩ := exists_partsFrom_suggestion hwritten
  rw [partText, part?_parts, hparts, List.find?_cons, beq_self_eq_true, Option.map_some,
    Option.getD_some]
  refine trim_take_prefix (fun c hc => ?_) stop
  have hfirst : c = Code.backtick := (Option.some.inj hc).symm
  rw [hfirst]
  decide

/-- The explanation is written on one line. -/
theorem newline_not_mem_line : '\n' ∉ writtenText "EXPLANATION" f.explanation := by
  have hlabel : '\n' ∉ "EXPLANATION".toList := by decide
  simp only [writtenText, List.mem_append, List.mem_cons, not_or]
  exact ⟨hlabel, by decide, by decide, f.plain.oneLine⟩

/-- A heading of an explanation begins at a line of the code or at the last line. -/
theorem lineStart_of_heads {back : List Char} (hline : LineStart f.written back)
    (hheads : Heads "explanation" back) :
    (∃ behind, LineStart f.code behind ∧ Heads "explanation" behind) ∨
      back = writtenText "EXPLANATION" f.explanation := by
  have hother {x : Char} {rest : List Char} (hback : back = x :: rest)
      (hx : beginsHeading x = false) : False := by
    rw [hback] at hheads
    rw [beginsHeading_of_heads hheads] at hx
    cases hx
  have hbacktick : beginsHeading Code.backtick = false := by decide
  have hopening : '\n' ∉ Prompt.fence.toList ++ f.tag := by
    rw [List.mem_append, not_or]
    exact ⟨newline_not_mem_fence, fun hmem => absurd (f.tag_chars _ hmem) (by decide)⟩
  have hline : LineStart ("SUGGESTION:".toList ++
      '\n' :: (f.block ++ '\n' :: writtenText "EXPLANATION" f.explanation)) back :=
    hline
  rw [block_append_lines] at hline
  rcases hline.of_append_feed with ⟨behind, hbehind, hback⟩ | hline
  · rw [lineStart_iff_of_not_mem (by decide)] at hbehind
    rw [hbehind] at hback
    exact (hother hback (by decide)).elim
  rcases hline.of_append_feed with ⟨behind, hbehind, hback⟩ | hline
  · rw [lineStart_iff_of_not_mem hopening] at hbehind
    rw [hbehind, toList_fence] at hback
    exact (hother hback hbacktick).elim
  rcases hline.of_append_feed with ⟨behind, hbehind, rfl⟩ | hline
  · rw [toList_fence] at hheads
    exact .inl ⟨behind, hbehind, hheads.of_append⟩
  rcases hline.of_append_feed with ⟨behind, hbehind, hback⟩ | hline
  · rw [lineStart_iff_of_not_mem newline_not_mem_fence] at hbehind
    rw [hbehind, toList_fence] at hback
    exact (hother hback hbacktick).elim
  · exact .inr ((lineStart_iff_of_not_mem f.newline_not_mem_line).mp hline)

/-- Without a heading of an explanation in the code no header in front of the last line is one of an
explanation. -/
theorem name_ne_of_fits {m : Match} (h : header.Fits f.written m) (hstart : m.start < f.head.length)
    (hcode : ∀ back, LineStart f.code back → ¬Heads "explanation" back) :
    (m.group 1).map upperChar ≠ "EXPLANATION".toList := by
  intro hname
  obtain ⟨front, back, hsplit, hfront, hheads⟩ := heads_of_fits h hname
  have hline : LineStart f.written back := by
    rw [hsplit] at h ⊢
    exact lineStart_of_fits h hfront
  rcases f.lineStart_of_heads hline hheads with ⟨behind, hbehind, hheads⟩ | rfl
  · exact hcode behind hbehind hheads
  · have hlength := congrArg List.length (f.written_eq_head.symm.trans hsplit)
    simp only [List.length_append, List.length_cons] at hlength
    omega

/-- In front of the explanation a proposal ends with a backtick. -/
theorem exists_head_eq_concat : ∃ front, f.head = front ++ [Code.backtick] := by
  obtain ⟨front, hfront⟩ : ∃ front, f.block = front ++ [Code.backtick] := by
    refine ⟨Code.backtick :: Code.backtick :: Code.backtick :: (f.tag ++ '\n' :: (f.code ++
      '\n' :: [Code.backtick, Code.backtick])), ?_⟩
    simp [block, toList_fence]
  exact ⟨"SUGGESTION:".toList ++ '\n' :: front,
    (congrArg (fun block => "SUGGESTION:".toList ++ '\n' :: block) hfront).trans
      (List.append_assoc "SUGGESTION:".toList ('\n' :: front) [Code.backtick]).symm⟩

/-- Without a heading of an explanation in the code the last line is the explanation. -/
theorem partText_explanation
    (hcode : ∀ back, LineStart f.code back → ¬Heads "explanation" back) :
    partText (parts f.written) "EXPLANATION" = f.explanation.toList := by
  have hlabel : "EXPLANATION" ∈ labels := by decide
  obtain ⟨sec, hsec, htext, hbody⟩ := exists_section_text hlabel f.plain
  obtain ⟨front, hfront⟩ := f.exists_head_eq_concat
  have hwritten : f.written = front ++ [Code.backtick] ++ '\n' :: sec.text := by
    rw [htext, ← hfront, f.written_eq_head]
  obtain ⟨inner, hall, hinner⟩ := exists_findAll_concat front sec
  rw [← hwritten] at hall hinner
  have hnames : ∀ m ∈ inner, (m.group 1).map upperChar ≠ sec.label.toList := by
    intro m hm
    obtain ⟨hfits, hstart⟩ := hinner m hm
    rw [hsec]
    exact f.name_ne_of_fits hfits (hfront ▸ hstart) hcode
  have hlast := find?_of_last sec hwritten hnames
  rw [partText, part?_parts, hall, ← hsec, hlast, Option.map_some, Option.getD_some, Section.part,
    hbody]

end FencedFix

/-- The code of a proposal is always read back. The explanation is read back when no heading of an
explanation begins at a line of the code. -/
theorem fix?_written (f : FencedFix) :
    ∃ explanation, fix? f.written = some ⟨String.ofList f.code, explanation⟩ ∧
      ((∀ back, LineStart f.code back → ¬Heads "explanation" back) →
        explanation = f.explanation) := by
  have hfront : Code.backtick ∉ "SUGGESTION:\n".toList := by decide
  have hreply : codeBlock? f.written = some f.code := by
    have hwritten : f.written = "SUGGESTION:\n".toList ++
        (f.block ++ '\n' :: writtenText "EXPLANATION" f.explanation) :=
      rfl
    rw [hwritten]
    exact f.codeBlock?_block hfront _
  refine ⟨String.ofList (partText (parts f.written) "EXPLANATION"), ?_, fun hcode => ?_⟩
  · rcases f.codeBlock?_of_prefix f.proposal_prefix with hnone | hsome
    · rw [fix?, hnone, hreply]
      rfl
    · rw [fix?, hsome]
      rfl
  · rw [f.partText_explanation hcode, String.ofList_toList]

/-- A proposal with two lines of code that are headers of sections. -/
def labelled : FencedFix where
  tag := "yaml".toList
  code := "RETURNS: 85\nSUGGESTION: 90".toList
  explanation := "The rate is lower."
  tag_chars := List.all_eq_true.mp (by decide)
  not_blank := by decide
  trimmed := by decide
  no_fence := mt contains_of_infix (by decide)
  plain := ⟨by decide, by decide⟩

/-- Headers in the code cut the section short, and the code is read back. -/
theorem labelled_read_back :
    (∀ back, LineStart labelled.code back → ¬Heads "explanation" back) ∧
      fix? labelled.written = some ⟨"RETURNS: 85\nSUGGESTION: 90", "The rate is lower."⟩ := by
  have hcode : ∀ back, LineStart labelled.code back → ¬Heads "explanation" back := by
    intro back hline hheads
    have hline' : LineStart ("RETURNS: 85".toList ++ '\n' :: "SUGGESTION: 90".toList) back := hline
    rcases hline'.of_append_feed with ⟨behind, hbehind, rfl⟩ | hbehind
    · rw [lineStart_iff_of_not_mem (by decide)] at hbehind
      subst hbehind
      exact absurd (beginsHeading_of_heads hheads) (by decide)
    · rw [lineStart_iff_of_not_mem (by decide)] at hbehind
      subst hbehind
      exact absurd (beginsHeading_of_heads hheads) (by decide)
  obtain ⟨explanation, hfix, hread⟩ := fix?_written labelled
  refine ⟨hcode, ?_⟩
  rw [hfix, hread hcode]
  rfl

/-- A proposal whose code has the name and the colon of a header on two lines. -/
def ternary : FencedFix where
  tag := "js".toList
  code := "return verbose ?\n  explanation\n  : summary;".toList
  explanation := "The order was wrong."
  tag_chars := List.all_eq_true.mp (by decide)
  not_blank := by decide
  trimmed := by decide
  no_fence := mt contains_of_infix (by decide)
  plain := ⟨by decide, by decide⟩

/-- It is not enough that no line of the code is a header. -/
theorem explanation_can_be_lost :
    ¬∀ f : FencedFix, (∀ l ∈ lines f.code, header.found l = false) →
      (fix? f.written).map Fix.explanation = some f.explanation := by
  intro h
  have hlost := h ternary (by decide)
  revert hlost
  decide

end Adjudicator.Answer
