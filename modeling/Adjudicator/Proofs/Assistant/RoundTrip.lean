import Adjudicator.Proofs.Assistant.Sections

/-!
# Answers in the requested form

An expectation or a behaviour is written as sections: a text on the line of its label, and a list
with an item a line behind its label, or with the word for none. Main statement: what is written so
is read back, whatever its texts and items say.
-/

namespace Adjudicator.Answer

open Text

/-- A text of one line without blanks around it. -/
structure Plain (s : String) : Prop where
  /-- No blanks stand around it. -/
  trimmed : trim s.toList = s.toList
  /-- It is one line. -/
  oneLine : '\n' ∉ s.toList

/-- An item that says that there is something. -/
structure PlainItem (s : String) : Prop extends Plain s where
  /-- It is not empty. -/
  ne_nil : s.toList ≠ []
  /-- It does not say that there is none. -/
  not_none : isNone s.toList = false

/-! ## Writing -/

/-- What a section holds. -/
inductive Content where
  /-- A text. -/
  | text (s : String)
  /-- A list. -/
  | list (xs : List String)

/-- A section to be written. -/
structure Field where
  /-- Its label. -/
  label : String
  /-- What it holds. -/
  content : Content

/-- A text on the line of its label. -/
def writtenText (label text : String) : List Char :=
  label.toList ++ ':' :: ' ' :: text.toList

/-- An item behind its dash. -/
def bullet (item : String) : List Char :=
  '-' :: ' ' :: item.toList

/-- A list with an item a line, or with the word for none. -/
def writtenList (label : String) : List String → List Char
  | [] => writtenText label "none"
  | item :: items => joinLines ((label.toList ++ [':']) :: (item :: items).map bullet)

/-- A section as it is written. -/
def Field.written (f : Field) : List Char :=
  match f.content with
  | .text s => writtenText f.label s
  | .list xs => writtenList f.label xs

/-- Whether a section can be written. -/
def Field.Plain (f : Field) : Prop :=
  match f.content with
  | .text s => Answer.Plain s
  | .list xs => ∀ item ∈ xs, PlainItem item

/-- Sections as an answer. -/
def written (fs : List Field) : List Char :=
  joinLines (fs.map Field.written)

/-- The sections of an expectation. -/
def expectationFields (e : Expectation) : List Field :=
  [⟨"DESCRIPTION", .text e.description⟩, ⟨"INPUTS", .list e.inputs⟩, ⟨"OUTPUTS", .list e.outputs⟩,
    ⟨"EXCEPTIONS", .list e.exceptions⟩]

/-- The sections of a behaviour. -/
def behaviorFields (b : Behavior) : List Field :=
  [⟨"DESCRIPTION", .text b.description⟩, ⟨"SIDE EFFECTS", .list b.sideEffects⟩,
    ⟨"RETURNS", .text b.returns⟩, ⟨"ERRORS", .list b.errors⟩]

/-! ## Lists -/

section Lists

variable {item : String} {xs : List String}

/-- A plain text does not begin with a blank. -/
theorem Plain.isBlank_head (h : Plain item) {c : Char} (hc : c ∈ item.toList.head?) :
    isBlank c = false := by
  rw [← h.trimmed] at hc
  exact isBlank_of_mem_head?_trim hc

/-- A plain text does not end with a blank. -/
theorem Plain.isBlank_getLast (h : Plain item) {c : Char} (hc : c ∈ item.toList.getLast?) :
    isBlank c = false := by
  rw [← h.trimmed] at hc
  exact isBlank_of_mem_getLast?_trim hc

/-- An item with its dash ends as the item does. -/
theorem getLast?_bullet (h : PlainItem item) : (bullet item).getLast? = item.toList.getLast? := by
  change (['-', ' '] ++ item.toList).getLast? = _
  exact List.getLast?_append_of_ne_nil _ h.ne_nil

/-- An item with its dash is on one line. -/
theorem newline_not_mem_bullet (h : Plain item) : '\n' ∉ bullet item := by
  rw [bullet, List.mem_cons, List.mem_cons, not_or, not_or]
  exact ⟨by decide, by decide, h.oneLine⟩

/-- A line feed with a dash behind it may follow a line. -/
theorem Dashed.append {a b : List Char} (ha : '\n' ∉ a) (hhead : b.head? = some '-')
    (hb : Dashed b) : Dashed (a ++ '\n' :: b) := by
  intro front back hsplit
  -- the line feed found is the one between the texts or one of the second
  rcases List.append_eq_append_iff.mp hsplit with ⟨more, rfl, hmore⟩ | ⟨more, rfl, hmore⟩
  · cases more with
    | nil =>
      obtain rfl := (List.cons.inj hmore).2
      exact hhead
    | cons x more => exact hb more back (List.cons.inj hmore).2
  · cases more with
    | nil =>
      obtain rfl := (List.cons.inj hmore).2
      exact hhead
    | cons x more =>
      obtain rfl := (List.cons.inj hmore).1
      exact absurd (List.mem_append_right front List.mem_cons_self) ha

/-- A list of items begins with a dash. -/
theorem head?_joinLines_bullets (hne : xs ≠ []) :
    (joinLines (xs.map bullet)).head? = some '-' := by
  obtain ⟨item, rest, rfl⟩ := List.exists_cons_of_ne_nil hne
  cases rest with
  | nil =>
    rw [List.map_singleton, joinLines_singleton]
    rfl
  | cons next rest =>
    rw [List.map_cons, joinLines_cons _ (by simp)]
    rfl

/-- Each line of a list of items begins with a dash. -/
theorem dashed_joinLines_bullets (h : ∀ item ∈ xs, PlainItem item) :
    Dashed (joinLines (xs.map bullet)) := by
  induction xs with
  | nil => exact dashed_of_not_mem List.not_mem_nil
  | cons item rest ih =>
    obtain ⟨hitem, hrest⟩ := List.forall_mem_cons.mp h
    cases rest with
    | nil =>
      rw [List.map_singleton, joinLines_singleton]
      exact dashed_of_not_mem (newline_not_mem_bullet hitem.toPlain)
    | cons next rest =>
      rw [List.map_cons, joinLines_cons _ (by simp)]
      exact .append (newline_not_mem_bullet hitem.toPlain)
        (head?_joinLines_bullets (List.cons_ne_nil next rest)) (ih hrest)

/-- Items behind dashes are one text without blanks around it. -/
theorem trim_joinLines_bullets (hne : xs ≠ []) (h : ∀ item ∈ xs, PlainItem item) :
    trim (joinLines (xs.map bullet)) = joinLines (xs.map bullet) := by
  refine trim_eq_self (fun c hc => ?_) fun c hc => ?_
  · rw [head?_joinLines_bullets hne, Option.mem_some_iff] at hc
    rw [← hc]
    decide
  · have hnonempty : ∀ line ∈ xs.map bullet, line ≠ [] := by
      intro line hline
      obtain ⟨item, -, rfl⟩ := List.mem_map.mp hline
      exact List.cons_ne_nil _ _
    obtain ⟨line, hline, hlast⟩ := mem_getLast?_joinLines hnonempty hc
    obtain ⟨item, hitem, rfl⟩ := List.mem_map.mp hline
    rw [getLast?_bullet (h item hitem)] at hlast
    exact (h item hitem).isBlank_getLast hlast

/-- A dash in front of an item is dropped, and nothing of the item. -/
theorem trim_dropWhile_bullet (h : PlainItem item) :
    trim ((trim (bullet item)).dropWhile isBullet) = item.toList := by
  have htrim : trim (bullet item) = bullet item := by
    refine trim_eq_self (fun c hc => ?_) fun c hc => ?_
    · rw [← Option.some.inj hc]
      decide
    · rw [getLast?_bullet h] at hc
      exact h.isBlank_getLast hc
  have hdrop : (bullet item).dropWhile isBullet = [' '] ++ item.toList := rfl
  rw [htrim, hdrop, trim_blanks_append (List.forall_mem_singleton.mpr rfl), h.trimmed]

/-- The items of a list are read back. -/
theorem items_joinLines_bullets (h : ∀ item ∈ xs, PlainItem item) :
    items (joinLines (xs.map bullet)) = xs.map String.toList := by
  have hlines : lines (joinLines (xs.map bullet)) = xs.map bullet := by
    refine lines_joinLines fun line hline => ?_
    obtain ⟨item, hitem, rfl⟩ := List.mem_map.mp hline
    refine ⟨List.cons_ne_nil _ _, newline_not_mem_bullet (h item hitem).toPlain, fun hlast => ?_⟩
    rw [getLast?_bullet (h item hitem)] at hlast
    exact absurd ((h item hitem).isBlank_getLast hlast) (by decide)
  have hitems : ((xs.map bullet).map fun line => trim ((trim line).dropWhile isBullet)) =
      xs.map String.toList := by
    rw [List.map_map]
    exact List.map_congr_left fun item hitem => trim_dropWhile_bullet (h item hitem)
  rw [items, hlines, hitems, List.filter_eq_self]
  intro line hline
  obtain ⟨item, hitem, rfl⟩ := List.mem_map.mp hline
  rw [(h item hitem).not_none, List.isEmpty_eq_false_iff.mpr (h item hitem).ne_nil]
  rfl

end Lists

/-! ## Sections as they are written -/

section Written

variable {label text : String} {xs : List String}

/-- A plain text is written as a section that is read back with nothing added. -/
theorem exists_section_text (hlabel : label ∈ labels) (h : Plain text) :
    ∃ s : Section, s.label = label ∧ s.text = writtenText label text ∧
      trim s.body = text.toList := by
  refine ⟨⟨label, [' '], text.toList, hlabel, fun x hx => List.mem_singleton.mp hx, fun x hx => ?_,
    ⟨' ', rfl, by decide⟩, dashed_of_not_mem h.oneLine⟩, rfl, ?_, h.trimmed⟩
  · have hblank := h.isBlank_head hx
    constructor <;> rintro rfl <;> cases hblank
  · simp only [Section.text, Section.head, writtenText, List.append_assoc, List.cons_append,
      List.nil_append]

/-- A list of plain items is written as a section whose items are read back. -/
theorem exists_section_list (hlabel : label ∈ labels) (h : ∀ item ∈ xs, PlainItem item) :
    ∃ s : Section, s.label = label ∧ s.text = writtenList label xs ∧
      items (trim s.body) = xs.map String.toList := by
  cases xs with
  | nil =>
    have hnone : Plain "none" := ⟨by decide, by decide⟩
    obtain ⟨s, hs, htext, hbody⟩ := exists_section_text hlabel hnone
    refine ⟨s, hs, htext, ?_⟩
    rw [hbody]
    decide
  | cons item rest =>
    have hne := List.cons_ne_nil item rest
    have hfirst : ∀ x ∈ ('\n' :: joinLines ((item :: rest).map bullet)).head?,
        x ≠ ' ' ∧ x ≠ '\t' := by
      intro x hx
      rw [← Option.some.inj hx]
      decide
    have hdashed : Dashed ([] ++ '\n' :: joinLines ((item :: rest).map bullet)) :=
      .append List.not_mem_nil (head?_joinLines_bullets hne) (dashed_joinLines_bullets h)
    have htext : (label.toList ++ [':']) ++ '\n' :: joinLines ((item :: rest).map bullet) =
        writtenList label (item :: rest) := by
      rw [writtenList, joinLines_cons _ (by simp)]
    have hitems : items (trim (['\n'] ++ joinLines ((item :: rest).map bullet))) =
        (item :: rest).map String.toList := by
      rw [trim_blanks_append (List.forall_mem_singleton.mpr rfl), trim_joinLines_bullets hne h,
        items_joinLines_bullets h]
    exact ⟨⟨label, [], '\n' :: joinLines ((item :: rest).map bullet), hlabel, nofun, hfirst,
      ⟨'\n', rfl, by decide⟩, hdashed⟩, rfl, htext, hitems⟩

end Written

/-! ## Reading back -/

section Reading

variable {fs : List Field} {f : Field}

/-- A section's text is what was written. -/
def Field.ReadFrom (f : Field) (text : List Char) : Prop :=
  match f.content with
  | .text s => text = s.toList
  | .list xs => items text = xs.map String.toList

/-- Each section that can be written is read back from its own text. -/
theorem Field.exists_section (hlabel : f.label ∈ labels) (h : f.Plain) :
    ∃ s : Section, s.label = f.label ∧ s.text = f.written ∧ f.ReadFrom (trim s.body) := by
  obtain ⟨label, content⟩ := f
  cases content with
  | text s => exact exists_section_text hlabel h
  | list xs => exact exists_section_list hlabel h

/-- What is written in sections of different labels is read from these sections. -/
theorem part?_written (hlabels : ∀ l ∈ fs.map Field.label, l ∈ labels)
    (hdistinct : (fs.map Field.label).Nodup) (h : ∀ f ∈ fs, f.Plain) (n : Nat) (hf : f ∈ fs) :
    ∃ text, part? (parts (written fs ++ List.replicate n '\n')) f.label = some text ∧
      f.ReadFrom text := by
  choose sec hlabel htext hread using fun f : {f // f ∈ fs} =>
    Field.exists_section (hlabels f.1.label (List.mem_map_of_mem f.2)) (h f.1 f.2)
  have hmem : sec ⟨f, hf⟩ ∈ fs.attach.map sec := List.mem_map_of_mem (List.mem_attach fs _)
  have hwritten : written fs = joinLines ((fs.attach.map sec).map Section.text) := by
    rw [written, List.map_map, ← List.attach_map_val]
    exact congrArg joinLines (List.map_congr_left fun f _ => (htext f).symm)
  have hnodup : ((fs.attach.map sec).map Section.label).Nodup := by
    rw [← List.attach_map_val] at hdistinct
    rw [List.map_map]
    exact (List.map_congr_left fun f _ => hlabel f) ▸ hdistinct
  refine ⟨trim (sec ⟨f, hf⟩).body, ?_, hread ⟨f, hf⟩⟩
  rw [hwritten, parts_sections (List.ne_nil_of_mem hmem) hnodup, ← hlabel ⟨f, hf⟩]
  exact part?_sections hnodup hmem

/-- A text that is read back is the part under its label. -/
theorem part?_of_text {found : List Part} {label text : String}
    (h : ∃ read, part? found label = some read ∧ Field.ReadFrom ⟨label, .text text⟩ read) :
    part? found label = some text.toList := by
  obtain ⟨read, hpart, hread⟩ := h
  exact hread ▸ hpart

/-- The text of a part that is read back is the text that was written. -/
theorem partText_of_text {found : List Part} {label text : String}
    (h : ∃ read, part? found label = some read ∧ Field.ReadFrom ⟨label, .text text⟩ read) :
    partText found label = text.toList := by
  rw [partText, part?_of_text h, Option.getD_some]

/-- The items of a part that is read back are those that were written. -/
theorem itemsOf_of_list {found : List Part} {label : String} {xs : List String}
    (h : ∃ read, part? found label = some read ∧ Field.ReadFrom ⟨label, .list xs⟩ read) :
    itemsOf found label = xs := by
  obtain ⟨read, hpart, hread⟩ := h
  have hitems : items read = xs.map String.toList := hread
  rw [itemsOf, partText, hpart, Option.getD_some, hitems, List.map_map]
  exact (List.map_congr_left fun _ _ => String.ofList_toList).trans xs.map_id

/-- What is written of an expectation is read back. -/
theorem expectation_written {e : Expectation} (h : ∀ f ∈ expectationFields e, f.Plain) (n : Nat) :
    expectation (written (expectationFields e) ++ List.replicate n '\n') = e := by
  have hfields : (expectationFields e).map Field.label =
      ["DESCRIPTION", "INPUTS", "OUTPUTS", "EXCEPTIONS"] := rfl
  let found := parts (written (expectationFields e) ++ List.replicate n '\n')
  have hread (f : Field) (hf : f ∈ expectationFields e) :
      ∃ text, part? found f.label = some text ∧ f.ReadFrom text :=
    part?_written (by rw [hfields]; decide) (by rw [hfields]; decide) h n hf
  have hdescription : part? found "DESCRIPTION" = some e.description.toList :=
    part?_of_text (hread ⟨_, .text e.description⟩ (.head _))
  have hinputs : itemsOf found "INPUTS" = e.inputs :=
    itemsOf_of_list (hread ⟨_, .list e.inputs⟩ (.tail _ (.head _)))
  have houtputs : itemsOf found "OUTPUTS" = e.outputs :=
    itemsOf_of_list (hread ⟨_, .list e.outputs⟩ (.tail _ (.tail _ (.head _))))
  have hexceptions : itemsOf found "EXCEPTIONS" = e.exceptions :=
    itemsOf_of_list (hread ⟨_, .list e.exceptions⟩ (.tail _ (.tail _ (.tail _ (.head _)))))
  rw [expectation, description, hdescription, hinputs, houtputs, hexceptions, Option.getD_some,
    String.ofList_toList]

/-- What is written of a behaviour is read back. -/
theorem behavior_written {b : Behavior} (h : ∀ f ∈ behaviorFields b, f.Plain) (n : Nat) :
    behavior (written (behaviorFields b) ++ List.replicate n '\n') = b := by
  have hfields : (behaviorFields b).map Field.label =
      ["DESCRIPTION", "SIDE EFFECTS", "RETURNS", "ERRORS"] := rfl
  let found := parts (written (behaviorFields b) ++ List.replicate n '\n')
  have hread (f : Field) (hf : f ∈ behaviorFields b) :
      ∃ text, part? found f.label = some text ∧ f.ReadFrom text :=
    part?_written (by rw [hfields]; decide) (by rw [hfields]; decide) h n hf
  have hdescription : part? found "DESCRIPTION" = some b.description.toList :=
    part?_of_text (hread ⟨_, .text b.description⟩ (.head _))
  have heffects : itemsOf found "SIDE EFFECTS" = b.sideEffects :=
    itemsOf_of_list (hread ⟨_, .list b.sideEffects⟩ (.tail _ (.head _)))
  have hreturns : partText found "RETURNS" = b.returns.toList :=
    partText_of_text (hread ⟨_, .text b.returns⟩ (.tail _ (.tail _ (.head _))))
  have herrors : itemsOf found "ERRORS" = b.errors :=
    itemsOf_of_list (hread ⟨_, .list b.errors⟩ (.tail _ (.tail _ (.tail _ (.head _)))))
  rw [behavior, description, hdescription, heffects, hreturns, herrors, Option.getD_some,
    String.ofList_toList, String.ofList_toList]

/-- Expectations and behaviours that are written in the requested form, with or without line feeds
at the end, are read back as they are, whatever labels, colons and marks are in their texts. -/
theorem answers_in_form_read_back (n : Nat) :
    (∀ e : Expectation, (∀ f ∈ expectationFields e, f.Plain) →
      expectation (written (expectationFields e) ++ List.replicate n '\n') = e) ∧
    ∀ b : Behavior, (∀ f ∈ behaviorFields b, f.Plain) →
      behavior (written (behaviorFields b) ++ List.replicate n '\n') = b :=
  ⟨fun _ h => expectation_written h n, fun _ h => behavior_written h n⟩

/-- An answer whose items begin like marks and headers. -/
theorem marks_and_labels_read_back :
    expectation ("DESCRIPTION: Adds. INPUTS: two\nINPUTS:\n- -1\n- * 2\n- OUTPUTS: 3\n" ++
      "OUTPUTS:\n- 1. one\nEXCEPTIONS: none").toList =
      { description := "Adds. INPUTS: two", inputs := ["-1", "* 2", "OUTPUTS: 3"],
        outputs := ["1. one"], exceptions := [] } ∧
    behavior "DESCRIPTION: \nSIDE EFFECTS: none\nRETURNS: ERRORS: -1\nERRORS:\n- #1\n".toList =
      { description := "", sideEffects := [], returns := "ERRORS: -1", errors := ["#1"] } := by
  have hplain {s : String} (h : trim s.toList = s.toList ∧ '\n' ∉ s.toList) : Plain s := ⟨h.1, h.2⟩
  have hitem {s : String} (h : (trim s.toList = s.toList ∧ '\n' ∉ s.toList) ∧ s.toList ≠ [] ∧
      isNone s.toList = false) : PlainItem s := ⟨hplain h.1, h.2.1, h.2.2⟩
  constructor
  · refine (congrArg expectation ?_).trans ((answers_in_form_read_back 0).1
      ⟨"Adds. INPUTS: two", ["-1", "* 2", "OUTPUTS: 3"], ["1. one"], []⟩ ?_)
    · decide
    simp only [expectationFields, List.forall_mem_cons, Field.Plain]
    exact ⟨hplain (by decide), ⟨hitem (by decide), hitem (by decide),
      hitem (by decide), nofun⟩, ⟨hitem (by decide), nofun⟩, nofun, nofun⟩
  · refine (congrArg behavior ?_).trans
      ((answers_in_form_read_back 1).2 ⟨"", [], "ERRORS: -1", ["#1"]⟩ ?_)
    · decide
    simp only [behaviorFields, List.forall_mem_cons, Field.Plain]
    exact ⟨hplain (by decide), nofun, hplain (by decide),
      ⟨hitem (by decide), nofun⟩, nofun⟩

end Reading

end Adjudicator.Answer
