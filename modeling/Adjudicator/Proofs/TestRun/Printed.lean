import Adjudicator.Proofs.TestRun.Failures
import Adjudicator.Proofs.Text.Lines

/-!
# What failed tests have printed

The output of the runner of Rust: a line for each test, then for each failed test a header and what
the test has printed. Main statement: each test is read with its status, and a failed test with its
own text exactly when no failed test before it has a name that matches. A text that has lines of
results in it adds these as outcomes of their own.
-/

namespace Adjudicator.Console

open Text Pattern TestRun

/-- A test as it is printed, with what it has printed itself. -/
structure PrintedTest where
  /-- Path of the test. -/
  path : List Char
  /-- How it ended. -/
  status : TestStatus
  /-- What it has printed. -/
  message : List Char
  /-- A path is not empty. -/
  path_ne_nil : path ≠ []
  /-- A path has no blanks. -/
  isBlank_path : ∀ c ∈ path, isBlank c = false
  /-- A failed test has printed something, and no line that ends it. -/
  message_of_failed : status = .failed →
    blank message = false ∧ ∀ l ∈ lines (message ++ ['\n']), endsPrinted l = false

namespace PrintedTest

/-- Whether the test failed. -/
def isFailed (t : PrintedTest) : Bool :=
  t.status == .failed

/-- The word for how a test ended. -/
def statusWord : TestStatus → String
  | .passed => "ok"
  | .failed => "FAILED"
  | .skipped => "ignored"

/-- The line of the test's result. -/
def resultText (t : PrintedTest) : Line :=
  "test ".toList ++ (t.path ++ (" ... ".toList ++ (statusWord t.status).toList))

/-- The header of what the test has printed. -/
def header (t : PrintedTest) : Line :=
  "---- ".toList ++ (t.path ++ " stdout ----".toList)

/-- The lines of what the test has printed. -/
def messageLines (t : PrintedTest) : List Line :=
  lines (t.message ++ ['\n'])

/-- What the test has printed, trimmed line by line and as a whole. -/
def ownText (t : PrintedTest) : List Char :=
  trim (joinLines (t.messageLines.map trim))

/-- Whether no failed test of some has a name that matches. -/
def isFirst (earlier : List PrintedTest) (t : PrintedTest) : Bool :=
  earlier.all fun e => !(e.isFailed && namesMatch e.path t.path)

/-- The outcome of a test behind others: with its own text when it is the first failed test of its
name. -/
def outcomeBehind (earlier : List PrintedTest) (t : PrintedTest) : TestOutcome :=
  { outcome t.path t.status with
    message := if t.isFailed && t.isFirst earlier then some (String.ofList t.ownText) else none }

/-- Tests as they are printed. -/
def printed (ts : List PrintedTest) : List Char :=
  (ts.map resultText ++ "failures:".toList ::
    (ts.filter isFailed).flatMap fun t => [t.header, t.message]).flatMap (· ++ ['\n'])

/-! ## Lines of the output -/

section Lines

variable (t : PrintedTest)

/-- A path is on one line. -/
theorem newline_not_mem_path : '\n' ∉ t.path :=
  fun h => Bool.false_ne_true ((t.isBlank_path _ h).symm.trans (by decide))

/-- A result is one line. -/
theorem lines_resultText : lines (t.resultText ++ ['\n']) = [t.resultText] := by
  refine lines_line ?_ ?_
  · have hword : '\n' ∉ (statusWord t.status).toList := by cases t.status <;> decide
    unfold resultText
    simp only [List.mem_append, not_or]
    exact ⟨by decide, t.newline_not_mem_path, by decide, hword⟩
  · obtain ⟨x, hx, hne⟩ : ∃ x ∈ (statusWord t.status).toList.getLast?, x ≠ '\r' := by
      cases t.status <;> exact ⟨_, rfl, by decide⟩
    unfold resultText
    rw [List.getLast?_append, List.getLast?_append, List.getLast?_append, hx]
    exact fun h => hne (Option.some.inj h)

/-- A header is one line. -/
theorem lines_header : lines (t.header ++ ['\n']) = [t.header] := by
  refine lines_line ?_ ?_
  · unfold header
    simp only [List.mem_append, not_or]
    exact ⟨by decide, t.newline_not_mem_path, by decide⟩
  · have hlast : " stdout ----".toList.getLast? = some '-' := rfl
    unfold header
    rw [List.getLast?_append, List.getLast?_append, hlast]
    exact fun h => absurd (Option.some.inj h) (by decide)

/-- Printed tests are the lines of all results, a line in front of the failures, and each failure
behind its header. -/
theorem lines_printed (ts : List PrintedTest) :
    lines (printed ts) = ts.map resultText ++ "failures:".toList ::
      (ts.filter isFailed).flatMap fun t => t.header :: t.messageLines := by
  have hresults : ((ts.map resultText).flatMap fun part => lines (part ++ ['\n'])) =
      ts.map resultText := by
    rw [List.flatMap_map, List.flatMap_congr (fun t _ => t.lines_resultText)]
    exact List.map_eq_flatMap.symm
  have hblocks (ts : List PrintedTest) :
      ((ts.flatMap fun t => [t.header, t.message]).flatMap fun part => lines (part ++ ['\n'])) =
        ts.flatMap fun t => t.header :: t.messageLines := by
    rw [List.flatMap_assoc]
    refine List.flatMap_congr fun t _ => ?_
    rw [List.flatMap_cons, List.flatMap_singleton, lines_header]
    rfl
  unfold printed
  rw [lines_flatMap_feed, List.flatMap_append, List.flatMap_cons, hresults, hblocks]
  rfl

end Lines

/-! ## Reading lines -/

section Reading

variable (t : PrintedTest)

/-- A path is taken up to the blank behind it. -/
theorem takes_path {rest : List Char} (h : ∀ c ∈ rest.head?, isBlank c = true) :
    (one fun c => !isBlank c).plus.Takes t.path rest := by
  refine takes_plus_one t.path_ne_nil (fun c hc => ?_) fun c hc => ?_
  · rw [t.isBlank_path c hc]
    rfl
  · rw [h c hc]
    rfl

/-- The word for how a test ended is taken at the end of the line. -/
theorem takes_statusWord (status : TestStatus) :
    (choice ["ok", "FAILED", "ignored"]).Takes (statusWord status).toList [] := by
  have hok : (text "ok").Rejects fun c => c == 'F' || c == 'i' := rejects_text (w := ['k']) rfl rfl
  have hfailed : (text "FAILED").Rejects fun c => c == 'i' :=
    rejects_text (w := "AILED".toList) rfl rfl
  cases status with
  | passed => exact (takes_text "ok").either
  | failed => exact hok.takes_either rfl (takes_text "FAILED").either
  | skipped => exact hok.takes_either rfl (hfailed.takes_either rfl (takes_text "ignored"))

/-- A result is read back. -/
theorem resulted?_resultText : resulted? t.resultText = some (outcome t.path t.status) := by
  obtain ⟨m, hm, hpath, hword⟩ : ∃ m, resultLine.find? t.resultText = some m ∧
      m.group 1 = t.path ∧ m.group 2 = (statusWord t.status).toList := by
    have hsplit : t.resultText = "test ".toList ++ (t.path ++ (" ... ".toList ++
        ((statusWord t.status).toList ++ []))) := by
      rw [List.append_nil]
      rfl
    have hp : resultLine.tryAt (.start t.resultText) =
        (text "test " ++ (group 1 (one fun c => !isBlank c).plus ++ (text " ... " ++
          (group 2 (choice ["ok", "FAILED", "ignored"]) ++ here)))).tryAt (.start t.resultText) :=
      rfl
    refine find?_of_tryAt_groups hsplit hp (takes_text _) (Takes.before (t.takes_path ?_))
      (takes_text _) (Takes.before (takes_statusWord t.status)) takes_here
    intro c hc
    obtain rfl := Option.some.inj hc
    decide
  rw [resulted?, hm, Option.map_some, hpath, hword]
  cases t.status <;> rfl

/-- A header is read with its path. -/
theorem find?_header : ∃ m, printedHeader.find? t.header = some m ∧ m.group 1 = t.path := by
  have hp : printedHeader.tryAt (.start t.header) =
      (text "---- " ++ (group 1 (one fun c => !isBlank c).plus ++ (text " stdout ----" ++
        textEnd))).tryAt (.start t.header) :=
    rfl
  have htail : (text " stdout ----" ++ textEnd).Takes " stdout ----".toList [] := by
    have htext : (text " stdout ----").Takes " stdout ----".toList ([] ++ []) := takes_text _
    have h := htext.append takes_textEnd
    rwa [List.append_nil] at h
  refine find?_of_tryAt_group rfl hp (takes_text _) (Takes.before (t.takes_path ?_)) htail
  intro c hc
  obtain rfl := Option.some.inj hc
  decide

/-- A header is no result. -/
theorem resulted?_header : resulted? t.header = none := by
  have hp : resultLine.tryAt = (textStart ++ (text "test " ++
      (group 1 (one fun c => !isBlank c).plus ++ (text " ... " ++
        group 2 (choice ["ok", "FAILED", "ignored"]))))).tryAt := rfl
  have hprefix : ¬"test ".toList <+: t.header :=
    fun ⟨_, h⟩ => absurd (List.cons.inj h).1 (by decide)
  rw [resulted?, find?_eq_none_of_not_start hp hprefix, Option.map_none]

/-- A result is no header. -/
theorem printedHeader_resultText : printedHeader.find? t.resultText = none := by
  have hp : printedHeader.tryAt = (textStart ++ (text "---- " ++
      (group 1 (one fun c => !isBlank c).plus ++ (text " stdout ----" ++ textEnd)))).tryAt := rfl
  exact find?_eq_none_of_not_start hp fun ⟨_, h⟩ => absurd (List.cons.inj h).1 (by decide)

end Reading

/-! ## Attaching -/

section Attaching

variable {o : TestOutcome} {os : List TestOutcome} {earlier ts : List PrintedTest}

/-- Gives each test's own text to the first failed outcome of its name. -/
def attachOwn (ts : List PrintedTest) (os : List TestOutcome) : List TestOutcome :=
  ts.foldl (fun os t => attach t.path t.ownText os) os

/-- A failed outcome takes the first text of its name and keeps the others of its name away from the
outcomes behind it. -/
theorem attachOwn_cons_failed (ho : o.status = .failed) (ts : List PrintedTest) :
    attachOwn ts (o :: os) =
      { o with
        message := o.message.or
          ((ts.find? fun t => namesMatch o.name.toList t.path).map fun t =>
            String.ofList t.ownText) } ::
      attachOwn (ts.filter fun t => !namesMatch o.name.toList t.path) os := by
  induction ts generalizing o os with
  | nil =>
    rw [List.find?_nil, Option.map_none, Option.or_none]
    rfl
  | cons t rest ih =>
    rw [attachOwn, List.foldl_cons, ← attachOwn, attach, decide_eq_true ho, Bool.true_and,
      List.find?_cons, List.filter_cons]
    cases hmatch : namesMatch o.name.toList t.path with
    | false =>
      rw [if_neg Bool.false_ne_true, ih ho]
      rfl
    | true =>
      -- an outcome that has a text keeps it
      let taken := { o with message := some (o.message.getD (String.ofList t.ownText)) }
      have htaken : taken.status = .failed := ho
      have hmessage (later : Option String) :
          taken.message.or later = o.message.or (some (String.ofList t.ownText)) := by
        change (some (o.message.getD _)).or later = _
        cases o.message <;> rfl
      rw [if_pos rfl, ih htaken, hmessage]
      rfl

/-- An outcome that did not fail takes no text. -/
theorem attachOwn_cons_of_ne (ho : o.status ≠ .failed) (ts : List PrintedTest) :
    attachOwn ts (o :: os) = o :: attachOwn ts os := by
  induction ts generalizing os with
  | nil => rfl
  | cons t rest ih =>
    rw [attachOwn, List.foldl_cons, ← attachOwn, attach, decide_eq_false ho, Bool.false_and,
      if_neg Bool.false_ne_true, ih]
    rfl

/-- A test is the first of its name behind others when none of them is a failed test of its name. -/
theorem isFirst_concat (earlier : List PrintedTest) (t u : PrintedTest) :
    u.isFirst (earlier ++ [t]) =
      (u.isFirst earlier && !(t.isFailed && namesMatch t.path u.path)) := by
  rw [isFirst, List.all_append, List.all_cons, List.all_nil, Bool.and_true, isFirst]

/-- Behind a test whose name matches one before it no test of its name is first. -/
theorem namesMatch_of_not_isFirst {t u : PrintedTest} (ht : t.isFirst earlier = false)
    (hu : u.isFirst earlier = true) : namesMatch t.path u.path = false := by
  rw [isFirst, List.all_eq_false] at ht
  obtain ⟨e, he, ht⟩ := ht
  rw [Bool.not_eq_true', Bool.not_eq_false, Bool.and_eq_true] at ht
  by_contra hmatch
  have hfirst := List.all_eq_true.mp hu e he
  rw [ht.1, namesMatch_trans ht.2 (Bool.not_eq_false _ ▸ hmatch)] at hfirst
  cases hfirst

/-- Of the texts left for a failed test it takes its own if it is the first of its name, and else
none, since matching is transitive. -/
theorem find?_isFirst {t : PrintedTest} {rest : List PrintedTest} :
    ((t :: rest).filter (isFirst earlier)).find? (fun u => namesMatch t.path u.path) =
      if t.isFirst earlier then some t else none := by
  rw [List.filter_cons]
  cases hfirst : t.isFirst earlier with
  | true =>
    rw [if_pos rfl, List.find?_cons, namesMatch_refl]
    rfl
  | false =>
    rw [if_neg Bool.false_ne_true, if_neg Bool.false_ne_true, List.find?_eq_none]
    intro u hu
    rw [namesMatch_of_not_isFirst hfirst (List.of_mem_filter hu)]
    exact Bool.false_ne_true

/-- Behind a failed test the texts of its name are gone. -/
theorem filter_isFirst_concat {t : PrintedTest} (ht : t.isFailed = true) (rest : List PrintedTest) :
    ((t :: rest).filter (isFirst earlier)).filter (fun u => !namesMatch t.path u.path) =
      rest.filter (isFirst (earlier ++ [t])) := by
  rw [List.filter_filter, List.filter_cons, namesMatch_refl, Bool.not_true, Bool.false_and,
    if_neg Bool.false_ne_true]
  refine List.filter_congr fun u _ => ?_
  rw [isFirst_concat, ht, Bool.true_and, Bool.and_comm]

/-- The text of each failed test that is the first of its name goes to its own outcome. -/
theorem attachOwn_map (earlier ts : List PrintedTest) (extras : List TestOutcome) :
    attachOwn ((ts.filter isFailed).filter (isFirst earlier))
        (ts.map (fun t => outcome t.path t.status) ++ extras) =
      (ts.mapIdx fun i t => t.outcomeBehind (earlier ++ ts.take i)) ++ extras := by
  -- at each outcome the texts left are those of the failed tests from there on that are first
  induction ts generalizing earlier with
  | nil => rfl
  | cons t rest ih =>
    have hrest : (rest.mapIdx fun i u => u.outcomeBehind (earlier ++ (t :: rest).take (i + 1))) =
        rest.mapIdx fun i u => u.outcomeBehind (earlier ++ [t] ++ rest.take i) := by
      simp only [List.take_succ_cons, List.append_assoc, List.singleton_append]
    rw [List.map_cons, List.cons_append, List.mapIdx_cons, hrest, List.cons_append, ← ih,
      List.take_zero, List.append_nil, outcomeBehind, List.filter_cons]
    cases hfailed : t.isFailed with
    | false =>
      have hkeep : (rest.filter isFailed).filter (isFirst (earlier ++ [t])) =
          (rest.filter isFailed).filter (isFirst earlier) := by
        refine List.filter_congr fun u _ => ?_
        rw [isFirst_concat, hfailed, Bool.false_and, Bool.not_false, Bool.and_true]
      have hstatus : (outcome t.path t.status).status ≠ .failed := beq_eq_false_iff_ne.mp hfailed
      rw [if_neg Bool.false_ne_true, attachOwn_cons_of_ne hstatus, hkeep, Bool.false_and,
        if_neg Bool.false_ne_true]
      rfl
    | true =>
      have hstatus : (outcome t.path t.status).status = .failed := beq_iff_eq.mp hfailed
      rw [if_pos rfl, attachOwn_cons_failed hstatus]
      simp only [namesMatch_outcome]
      rw [find?_isFirst, filter_isFirst_concat hfailed, Bool.true_and]
      cases t.isFirst earlier <;> rfl

end Attaching

/-! ## Reading the output -/

section Output

variable {l : Line} {m : Match} {os : List TestOutcome} {ts : List PrintedTest}

/-- A line that is no header adds no message. -/
theorem addPrinted_of_none (h : printedHeader.find? l = none) (os : List TestOutcome)
    (rest : List Line) : addPrinted os (l :: rest) = addPrinted os rest := by
  rw [addPrinted, h]

/-- A header adds the lines behind it as the message of its name. -/
theorem addPrinted_of_some (h : printedHeader.find? l = some m) (os : List TestOutcome)
    (rest : List Line) :
    addPrinted os (l :: rest) =
      addPrinted (attachMessage (m.group 1) (block endsPrinted rest) os) rest := by
  rw [addPrinted, h]

/-- Several lines without a header add no message. -/
theorem addPrinted_append_of_none {ls : List Line} (h : ∀ l ∈ ls, printedHeader.find? l = none)
    (os : List TestOutcome) (rest : List Line) :
    addPrinted os (ls ++ rest) = addPrinted os rest := by
  induction ls with
  | nil => rfl
  | cons l ls ih =>
    obtain ⟨hl, hls⟩ := List.forall_mem_cons.mp h
    rw [List.cons_append, addPrinted_of_none hl, ih hls]

/-- A header ends the message in front of it. -/
theorem endsPrinted_header (t : PrintedTest) : endsPrinted t.header = true := by
  obtain ⟨m, hm, -⟩ := t.find?_header
  rw [endsPrinted, found, hm]
  rfl

/-- The block behind a header is what its test has printed. -/
theorem block_messageLines {t : PrintedTest} (ht : t.isFailed = true) (ts : List PrintedTest) :
    block endsPrinted (t.messageLines ++ ts.flatMap fun t => t.header :: t.messageLines) =
      t.ownText := by
  have hown := (t.message_of_failed (beq_iff_eq.mp ht)).2
  cases ts with
  | nil =>
    rw [List.flatMap_nil, List.append_nil]
    exact block_of_forall _ hown
  | cons next rest =>
    rw [List.flatMap_cons, List.cons_append, block_append next.endsPrinted_header]
    exact block_of_forall _ hown

/-- A failed test has printed something, so its text is left. -/
theorem blank_ownText {t : PrintedTest} (ht : t.isFailed = true) :
    Text.blank t.ownText = false := by
  have hlines : (t.messageLines.map trim).all Text.blank = t.messageLines.all Text.blank := by
    rw [List.all_map]
    exact congrArg t.messageLines.all (funext blank_trim)
  rw [ownText, blank_trim, blank_joinLines, hlines, messageLines, all_blank_lines, Text.blank,
    List.all_append, ← Text.blank, (t.message_of_failed (beq_iff_eq.mp ht)).1, Bool.false_and]

/-- Each block gives its test's text to the outcomes. -/
theorem addPrinted_blocks (hts : ∀ t ∈ ts, t.isFailed = true) (os : List TestOutcome) :
    addPrinted os (ts.flatMap fun t => t.header :: t.messageLines) = attachOwn ts os := by
  induction ts generalizing os with
  | nil => rfl
  | cons t rest ih =>
    obtain ⟨ht, hrest⟩ := List.forall_mem_cons.mp hts
    obtain ⟨m, hm, hpath⟩ := t.find?_header
    have hnone : ∀ l ∈ t.messageLines, printedHeader.find? l = none := by
      intro l hl
      have hends := (t.message_of_failed (beq_iff_eq.mp ht)).2 l hl
      rw [endsPrinted, Bool.or_assoc, Bool.or_eq_false_iff, found, Option.isSome_eq_false_iff,
        Option.isNone_iff_eq_none] at hends
      exact hends.1
    rw [List.flatMap_cons, List.cons_append, addPrinted_of_some hm, block_messageLines ht, hpath,
      addPrinted_append_of_none hnone, ih hrest, attachMessage, blank_ownText ht,
      if_neg Bool.false_ne_true]
    rfl

/-- Tests are read in order with their statuses, and a failed test with its own text exactly when no
failed test before it has a name that matches. Lines of results in what failed tests have printed
are outcomes behind them. -/
theorem outcomes_printed (ts : List PrintedTest) :
    outcomes .cargo (printed ts) =
      (ts.mapIdx fun i t => t.outcomeBehind (ts.take i)) ++
        (ts.filter isFailed).flatMap fun t => t.messageLines.filterMap resulted? := by
  have hresults (ts : List PrintedTest) :
      (ts.map resultText).filterMap resulted? = ts.map fun t => outcome t.path t.status := by
    rw [List.filterMap_map, ← List.filterMap_eq_map]
    exact List.filterMap_congr fun t _ => t.resulted?_resultText
  have hblocks (ts : List PrintedTest) :
      (ts.flatMap fun t => t.header :: t.messageLines).filterMap resulted? =
        ts.flatMap fun t => t.messageLines.filterMap resulted? := by
    rw [List.filterMap_flatMap]
    exact List.flatMap_congr fun t _ => List.filterMap_cons_none t.resulted?_header
  have hnone : ∀ l ∈ ts.map resultText ++ ["failures:".toList], printedHeader.find? l = none := by
    intro l hl
    rcases List.mem_append.mp hl with hl | hl
    · obtain ⟨t, _, rfl⟩ := List.mem_map.mp hl
      exact t.printedHeader_resultText
    · rw [List.mem_singleton.mp hl]
      decide
  have hfirst : (ts.filter isFailed).filter (isFirst []) = ts.filter isFailed := List.filter_true _
  have hattach := attachOwn_map [] ts
    ((ts.filter isFailed).flatMap fun t => t.messageLines.filterMap resulted?)
  have hfailed : ∀ t ∈ ts.filter isFailed, t.isFailed = true := fun _ => List.of_mem_filter
  simp only [hfirst, List.nil_append] at hattach
  rw [outcomes, ofResults, lines_printed, List.filterMap_append, hresults,
    List.filterMap_cons_none (by decide), hblocks, ← hattach, ← List.singleton_append,
    ← List.append_assoc, addPrinted_append_of_none hnone, addPrinted_blocks hfailed]

/-- Two failed tests of one name in two modules. -/
def twoTotals : List PrintedTest :=
  [⟨"cart::total".toList, .failed, "left: 1".toList, by decide,
      fun c hc => Bool.eq_false_iff.mpr (List.any_eq_false.mp (by decide) c hc),
      fun _ => by decide⟩,
    ⟨"order::total".toList, .failed, "left: 2".toList, by decide,
      fun c hc => Bool.eq_false_iff.mpr (List.any_eq_false.mp (by decide) c hc),
      fun _ => by decide⟩]

example : printed [⟨"total".toList, .failed, "left: 1".toList, by decide, by decide,
      fun _ => by decide⟩] =
    ["test total ... FAILED\n", "failures:\n", "---- total stdout ----\n", "left: 1\n"].flatMap
      String.toList := by
  decide +kernel

/-- Tests of different paths do not each get their own text. -/
theorem own_text_can_be_lost :
    ¬∀ ts : List PrintedTest, (ts.map path).Nodup → ∀ t ∈ ts, t.isFailed = true →
      { outcome t.path .failed with message := some (String.ofList t.ownText) } ∈
        outcomes .cargo (printed ts) := by
  intro h
  have hlost := h twoTotals (by decide) _ (List.mem_cons_of_mem _ List.mem_cons_self) rfl
  revert hlost
  decide

end Output

end PrintedTest

end Adjudicator.Console
