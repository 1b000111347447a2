import Adjudicator.Proofs.Pattern.Taken
import Adjudicator.Proofs.Text.Lines
import Adjudicator.TestRun.Console
import Mathlib.Algebra.Order.BigOperators.Group.List
import Mathlib.Algebra.Order.Group.Nat

/-!
# What tests have logged

The output of the runner of Go for tests that run one after the other: the start of each test, the
lines that it has logged, and its end. Main statement: each test is read with its status, and a
failed test with its own lines, exactly when every test has a name and no logged line begins like an
end. Names may repeat.
-/

namespace Adjudicator.Console

open Text Pattern

/-! ## Ends of tests -/

section Ends

variable {l rest : Line} {m : Match} {status : TestStatus} {name seconds : List Char}

/-- The word for how a test ended. -/
def endWord : TestStatus → String
  | .passed => "PASS"
  | .failed => "FAIL"
  | .skipped => "SKIP"

/-- The line at the end of a test. -/
def endText (status : TestStatus) (name seconds : List Char) : Line :=
  "--- ".toList ++ ((endWord status).toList ++ (": ".toList ++ (name ++ (" (".toList ++
    (seconds ++ "s)".toList)))))

/-- A name has no blanks. -/
def IsName (name : List Char) : Prop :=
  ∀ c ∈ name, isBlank c = false

/-- A duration is written in digits and points. -/
def IsDuration (seconds : List Char) : Prop :=
  seconds ≠ [] ∧ ∀ c ∈ seconds, (isDigit c || c == '.') = true

/-- The line at the end of a test closes a parenthesis last. -/
theorem getLast?_endText (status : TestStatus) (name seconds : List Char) :
    (endText status name seconds).getLast? = some ')' := by
  simp only [endText, List.getLast?_append]
  rfl

/-- A line is the end of a test with a name. -/
def IsEnd (l : Line) : Prop :=
  ∃ status name seconds, name ≠ [] ∧ IsName name ∧ IsDuration seconds ∧
    l = endText status name seconds

/-- A line begins like the end of a test with a name. -/
def BeginsEnd (l : Line) : Prop :=
  ∃ head, IsEnd head ∧ head <+: l

/-- The pattern of an end line behind the start of the text. -/
theorem tryAt_endLine : endLine.tryAt = (textStart ++ (gap ++ (text "--- " ++
    (group 1 (choice ["PASS", "FAIL", "SKIP"]) ++ (text ": " ++
      (group 2 (one fun c => !isBlank c).plus ++ (text " (" ++
        (group 3 (one fun c => isDigit c || c == '.').plus ++ text "s)")))))))).tryAt :=
  rfl

/-- The word for how a test ended is taken. -/
theorem takes_endWord (status : TestStatus) :
    (choice ["PASS", "FAIL", "SKIP"]).Takes (endWord status).toList rest := by
  have hpass : (text "PASS").Rejects fun c => c == 'F' || c == 'S' :=
    rejects_text (w := "ASS".toList) rfl rfl
  have hfail : (text "FAIL").Rejects fun c => c == 'S' :=
    rejects_text (w := "AIL".toList) rfl rfl
  cases status with
  | passed => exact (takes_text "PASS").either
  | failed => exact hpass.takes_either rfl (takes_text "FAIL").either
  | skipped => exact hpass.takes_either rfl (hfail.takes_either rfl (takes_text "SKIP"))

/-- A name is taken up to the blank behind it. -/
theorem takes_name (hne : name ≠ []) (hname : IsName name)
    (hrest : ∀ c ∈ rest.head?, isBlank c = true) :
    (one fun c => !isBlank c).plus.Takes name rest := by
  refine takes_plus_one hne (fun c hc => ?_) fun c hc => ?_
  · rw [hname c hc]
    rfl
  · rw [hrest c hc]
    rfl

/-- No blanks are around a name. -/
theorem IsName.trim_eq (h : IsName name) : trim name = name :=
  trim_eq_self (fun c hc => h c (List.mem_of_mem_head? hc)) fun c hc =>
    h c (List.mem_of_getLast? hc)

/-- What begins like an end is read as the end, whatever follows. -/
theorem find?_endLine (hne : name ≠ []) (hname : IsName name) (hseconds : IsDuration seconds)
    (hl : trimStart l = endText status name seconds ++ rest) :
    ∃ m, endLine.find? l = some m ∧ m.group 1 = (endWord status).toList ∧ m.group 2 = name ∧
      m.group 3 = seconds := by
  let blanks := l.takeWhile isBlank
  have hsplit : l = blanks ++ endText status name seconds ++ rest := by
    rw [List.append_assoc, ← hl]
    exact List.takeWhile_append_dropWhile.symm
  have hblanks : gap.Takes blanks (endText status name seconds ++ rest) := by
    refine takes_star_one (fun c hc => List.mem_takeWhile_imp hc) fun c hc => ?_
    obtain rfl := Option.some.inj hc
    decide
  have hdigits : (one fun c => isDigit c || c == '.').plus.Takes seconds ("s)".toList ++ rest) := by
    refine takes_plus_one hseconds.1 hseconds.2 fun c hc => ?_
    obtain rfl := Option.some.inj hc
    decide
  have hblank : ∀ c ∈ (" (".toList ++ (seconds ++ "s)".toList) ++ rest).head?,
      isBlank c = true := by
    intro c hc
    obtain rfl := Option.some.inj hc
    decide
  have hrecords := hblanks.records.append ((takes_text "--- ").records.append
    (((takes_endWord status).records_group 1).append ((takes_text ": ").records.append
      (((takes_name hne hname hblank).records_group 2).append ((takes_text " (").records.append
        ((hdigits.records_group 3).append (takes_text "s)").records))))))
  have hthree : Records _ (blanks ++ endText status name seconds) rest
      [(3, _, seconds), (2, _, name), (1, _, (endWord status).toList)] := hrecords
  obtain ⟨m, hm, hgroups⟩ := hthree.exists_find? tryAt_endLine
  rw [hsplit]
  refine ⟨m, hm, hgroups 1 _ _ rfl ?_, hgroups 2 _ _ rfl ?_, hgroups 3 _ _ rfl ?_⟩
  all_goals simp [endText]

/-- What is read as an end begins like one. -/
theorem beginsEnd_of_find?_endLine (h : endLine.find? l = some m) : BeginsEnd (trimStart l) := by
  have hgap : gap.Passes (several isBlank) := reads_star_one.passes
  have hletters : (one fun c => !isBlank c).plus.Passes _ := passes_plus_one
  have hdigits : (one fun c => isDigit c || c == '.').plus.Passes _ := passes_plus_one
  have hpasses := hgap.append ((reads_text "--- ").passes.append
    (((reads_choice_text ["PASS", "FAIL", "SKIP"]).passes.group 1).append
      ((reads_text ": ").passes.append ((hletters.group 2).append ((reads_text " (").passes.append
        ((hdigits.group 3).append (reads_text "s)").passes))))))
  obtain ⟨_, ⟨blanks, hblanks, _, ⟨_, rfl, _, ⟨_, ⟨word, hword, rfl⟩, _, ⟨_, rfl, _,
    ⟨name, ⟨hne, hname⟩, _, ⟨_, rfl, _, ⟨seconds, hseconds, _, rfl, rfl⟩, rfl⟩, rfl⟩, rfl⟩, rfl⟩,
    rfl⟩, rfl⟩, rest, rfl⟩ := Passes.exists_prefix tryAt_endLine hpasses h
  obtain ⟨status, rfl⟩ : ∃ status, word = endWord status := by
    simp only [List.mem_cons, List.not_mem_nil, or_false] at hword
    rcases hword with rfl | rfl | rfl
    exacts [⟨.passed, rfl⟩, ⟨.failed, rfl⟩, ⟨.skipped, rfl⟩]
  have hname' : IsName name := fun c hc => Bool.not_eq_true' _ ▸ hname c hc
  have htrim : trimStart (blanks ++ endText status name seconds ++ rest) =
      endText status name seconds ++ rest := by
    rw [List.append_assoc, trimStart, List.dropWhile_append_of_pos hblanks]
    rfl
  exact ⟨endText status name seconds, ⟨status, name, seconds, hne, hname', hseconds, rfl⟩, rest,
    htrim.symm⟩

end Ends

/-- A test as it is printed, with the lines that it has logged. -/
structure LoggedTest where
  /-- Name of the test. -/
  name : List Char
  /-- How it ended. -/
  status : TestStatus
  /-- How many seconds it took. -/
  seconds : List Char
  /-- The lines that it has logged. -/
  log : List Line
  /-- A name has no blanks. -/
  isName : IsName name
  /-- Seconds are written in digits and points. -/
  isDuration : IsDuration seconds
  /-- Logged lines are trimmed and not empty. -/
  log_trimmed : ∀ l ∈ log, l ≠ [] ∧ trim l = l ∧ '\n' ∉ l

namespace LoggedTest

/-- The line at the start of the test. -/
def runText (t : LoggedTest) : Line :=
  "=== RUN   ".toList ++ t.name

/-- A logged line as it is printed. -/
def logText (l : Line) : Line :=
  "    ".toList ++ l

/-- The lines of a test. -/
def texts (t : LoggedTest) : List Line :=
  t.runText :: (t.log.map logText ++ [endText t.status t.name t.seconds])

/-- Tests as they are printed. -/
def printed (ts : List LoggedTest) : List Char :=
  (ts.flatMap texts).flatMap (· ++ ['\n'])

/-- What is known of a test from its lines: a failed test has its log as a message. -/
def result (t : LoggedTest) : TestOutcome :=
  { name := String.ofList t.name
    status := t.status
    duration := (Number.readFloat? t.seconds).map fun s => Number.toUnsigned64 (s * 1000.0)
    message :=
      if t.status = .failed ∧ t.log ≠ [] then some (String.ofList (joinLines t.log)) else none }

/-! ## Lines of the output -/

section Lines

variable (t : LoggedTest)

/-- A text has no line ends. -/
def Unbroken (s : List Char) : Prop :=
  ∀ c ∈ s, c ≠ '\n' ∧ c ≠ '\r'

/-- A text without line ends is one line. -/
theorem Unbroken.lines_eq {s : List Char} (h : Unbroken s) : lines (s ++ ['\n']) = [s] :=
  lines_line (fun hmem => (h _ hmem).1 rfl) fun hlast => (h _ (List.mem_of_getLast? hlast)).2 rfl

/-- A name is on one line. -/
theorem unbroken_name : Unbroken t.name := by
  intro c hc
  have hblank := t.isName c hc
  constructor <;> rintro rfl <;> exact absurd hblank (by decide)

/-- A duration is on one line. -/
theorem unbroken_seconds : Unbroken t.seconds := by
  intro c hc
  have hdigit := t.isDuration.2 c hc
  constructor <;> rintro rfl <;> exact absurd hdigit (by decide)

/-- Whether a text has line ends can be checked. -/
theorem unbroken_literal {s : List Char} (h : s.all fun c => c != '\n' && c != '\r') :
    Unbroken s := by
  intro c hc
  have hboth := List.all_eq_true.mp h c hc
  rwa [Bool.and_eq_true, bne_iff_ne, bne_iff_ne] at hboth

/-- The line at the start of a test is one line. -/
theorem unbroken_runText : Unbroken t.runText :=
  List.forall_mem_append.mpr ⟨unbroken_literal (by decide), t.unbroken_name⟩

/-- The line at the end of a test is one line. -/
theorem unbroken_endText : Unbroken (endText t.status t.name t.seconds) := by
  have hword : Unbroken (endWord t.status).toList := by
    cases t.status <;> exact unbroken_literal (by decide)
  unfold Unbroken endText
  simp only [List.forall_mem_append]
  exact ⟨unbroken_literal (by decide), hword, unbroken_literal (by decide), t.unbroken_name,
    unbroken_literal (by decide), t.unbroken_seconds, unbroken_literal (by decide)⟩

/-- A logged line stays one line. -/
theorem lines_logText {l : Line} (hl : l ∈ t.log) : lines (logText l ++ ['\n']) = [logText l] := by
  obtain ⟨hne, htrim, hfeed⟩ := t.log_trimmed l hl
  refine lines_line ?_ fun hlast => ?_
  · rw [logText, List.mem_append, not_or]
    exact ⟨by decide, hfeed⟩
  · rw [logText, List.getLast?_append_of_ne_nil _ hne, ← htrim] at hlast
    exact absurd (isBlank_of_mem_getLast?_trim hlast) (by decide)

/-- Each text of a test is a line. -/
theorem lines_texts : ∀ s ∈ t.texts, lines (s ++ ['\n']) = [s] := by
  intro s hs
  rw [texts, List.mem_cons, List.mem_append, List.mem_map, List.mem_singleton] at hs
  rcases hs with rfl | ⟨l, hl, rfl⟩ | rfl
  · exact t.unbroken_runText.lines_eq
  · exact t.lines_logText hl
  · exact t.unbroken_endText.lines_eq

/-- Printed tests are the lines of each test, one test after the other. -/
theorem lines_printed (ts : List LoggedTest) : lines (printed ts) = ts.flatMap texts := by
  rw [printed, lines_flatMap_feed]
  refine Eq.trans (List.flatMap_congr fun s hs => ?_) (List.flatMap_singleton' _)
  obtain ⟨t, -, hs⟩ := List.mem_flatMap.mp hs
  exact t.lines_texts s hs

end Lines

/-! ## Reading lines -/

section Reading

variable (t : LoggedTest) {l : Line}

/-- The pattern of a start line behind the start of the text. -/
theorem tryAt_runLine : runLine.tryAt = (textStart ++ (text "=== RUN" ++ (space ++
    group 1 (one fun c => !isBlank c).plus))).tryAt :=
  rfl

/-- The start of a test with a name is read with its name. -/
theorem find?_runText (hne : t.name ≠ []) :
    ∃ m, runLine.find? t.runText = some m ∧ m.group 1 = t.name := by
  have hspace : space.Takes "   ".toList (t.name ++ []) := by
    refine takes_plus_one (by decide) (List.all_eq_true.mp rfl) fun c hc => ?_
    rw [List.append_nil] at hc
    exact t.isName c (List.mem_of_mem_head? hc)
  have hrecords := (takes_text "=== RUN").records.append (hspace.records.append
    ((takes_name hne t.isName (by simp)).records_group 1))
  obtain ⟨m, hm, hgroups⟩ := hrecords.exists_find? tryAt_runLine
  rw [List.append_nil] at hm hgroups
  exact ⟨m, hm, hgroups 1 _ _ rfl (by simp)⟩

/-- Only a text that begins like a start is read as one. -/
theorem find?_runLine_eq_none (h : l.head? ≠ some '=') : runLine.find? l = none := by
  refine find?_eq_none_of_not_start tryAt_runLine ?_
  rintro ⟨rest, rfl⟩
  exact h rfl

/-- No test starts on an end line. -/
theorem find?_runLine_endText : runLine.find? (endText t.status t.name t.seconds) = none :=
  find?_runLine_eq_none fun h => absurd (Option.some.inj h) (by decide)

/-- No test starts on a logged line. -/
theorem find?_runLine_logText (l : Line) : runLine.find? (logText l) = none :=
  find?_runLine_eq_none fun h => absurd (Option.some.inj h) (by decide)

/-- A start is no end. -/
theorem find?_endLine_runText : endLine.find? t.runText = none := by
  by_contra hsome
  obtain ⟨m, hm⟩ := Option.ne_none_iff_exists'.mp hsome
  obtain ⟨_, ⟨status, name, seconds, -, -, -, rfl⟩, rest, hrest⟩ := beginsEnd_of_find?_endLine hm
  exact absurd (List.cons.inj hrest).1 (by decide)

/-- Only the blanks in front of a logged line are trimmed. -/
theorem trimStart_logText (hl : l ∈ t.log) : trimStart (logText l) = l := by
  obtain ⟨-, htrim, -⟩ := t.log_trimmed l hl
  have hspaces : ∀ c ∈ "    ".toList, isBlank c = true := List.all_eq_true.mp rfl
  have hfirst : ∀ c ∈ l.head?, isBlank c = false := fun c hc =>
    isBlank_of_mem_head?_trim (htrim.symm ▸ hc)
  rw [logText, trimStart, List.dropWhile_append_of_pos hspaces]
  exact trimStart_eq_self hfirst

/-- The end of a test with a name is read with all that it says. -/
theorem find?_endText (hne : t.name ≠ []) :
    ∃ m, endLine.find? (endText t.status t.name t.seconds) = some m ∧
      m.group 1 = (endWord t.status).toList ∧ m.group 2 = t.name ∧ m.group 3 = t.seconds := by
  have htrim : trimStart (endText t.status t.name t.seconds) =
      endText t.status t.name t.seconds ++ [] :=
    (List.append_nil _).symm
  exact find?_endLine hne t.isName t.isDuration htrim

/-- A logged line is read as an end exactly when it begins like one. -/
theorem find?_endLine_logText_eq_none_iff (hl : l ∈ t.log) :
    endLine.find? (logText l) = none ↔ ¬BeginsEnd l := by
  rw [iff_not_comm, ← ne_eq, Option.ne_none_iff_exists']
  have htrim := t.trimStart_logText hl
  constructor
  · rintro ⟨_, ⟨status, name, seconds, hne, hname, hseconds, rfl⟩, rest, rfl⟩
    obtain ⟨m, hm, -⟩ := find?_endLine hne hname hseconds htrim
    exact ⟨m, hm⟩
  · rintro ⟨m, hm⟩
    exact htrim ▸ beginsEnd_of_find?_endLine hm

end Reading

/-! ## Names of outcomes -/

section Names

variable {t : LoggedTest} {l : Line}

/-- The name in a line that is read as an end. -/
def endedName? (l : Line) : Option String :=
  if runLine.found l then none
  else (endLine.find? l).map fun m => String.ofList (trim (m.group 2))

/-- Which names are read does not depend on what was logged. -/
theorem map_name_ofRuns (logs : Logs) (ls : List Line) :
    (ofRuns logs ls).map TestOutcome.name = ls.filterMap endedName? := by
  induction ls generalizing logs with
  | nil => rfl
  | cons l rest ih =>
    rw [ofRuns, List.filterMap_cons, endedName?, found]
    cases runLine.find? l with
    | some m => exact ih _
    | none =>
      rw [Option.isSome_none, if_neg Bool.false_ne_true]
      cases endLine.find? l with
      | some m =>
        dsimp only [Option.map_some]
        rw [List.map_cons, ih]
        rfl
      | none =>
        dsimp only [Option.map_none]
        split <;> exact ih _

/-- No name is empty. -/
theorem endedName?_ne_empty {s : String} (h : endedName? l = some s) : s ≠ "" := by
  unfold endedName? at h
  split at h
  · cases h
  · obtain ⟨m, hm, rfl⟩ := Option.map_eq_some_iff.mp h
    obtain ⟨_, ⟨status, name, seconds, hne, hname, hseconds, rfl⟩, rest, hrest⟩ :=
      beginsEnd_of_find?_endLine hm
    obtain ⟨m', hm', -, hgroup, -⟩ := find?_endLine hne hname hseconds hrest.symm
    obtain rfl := Option.some.inj (hm.symm.trans hm')
    rw [hgroup, hname.trim_eq]
    exact fun hempty => hne (String.ofList_injective hempty)

/-- A name is read in a logged line that begins like an end. -/
theorem exists_endedName?_logText (hl : l ∈ t.log) (h : BeginsEnd l) :
    ∃ s, endedName? (logText l) = some s := by
  obtain ⟨m, hm⟩ := Option.ne_none_iff_exists'.mp fun hnone =>
    (t.find?_endLine_logText_eq_none_iff hl).mp hnone h
  rw [endedName?, found, find?_runLine_logText, Option.isSome_none, if_neg Bool.false_ne_true, hm]
  exact ⟨_, rfl⟩

/-- Of a test its own name is read, if it has one, behind those of logged lines that begin like
ends. -/
theorem filterMap_texts (t : LoggedTest) (hne : t.name ≠ []) :
    t.texts.filterMap endedName? =
      (t.log.map logText).filterMap endedName? ++ [String.ofList t.name] := by
  have hrun : endedName? t.runText = none := by
    rw [endedName?, t.find?_endLine_runText, Option.map_none, ite_self]
  have hend : endedName? (endText t.status t.name t.seconds) = some (String.ofList t.name) := by
    obtain ⟨m, hm, -, hgroup, -⟩ := t.find?_endText hne
    rw [endedName?, found, t.find?_runLine_endText, Option.isSome_none, if_neg Bool.false_ne_true,
      hm, Option.map_some, hgroup, t.isName.trim_eq]
  rw [texts, List.filterMap_cons_none hrun, List.filterMap_append, List.filterMap_cons_some hend,
    List.filterMap_nil]

end Names

/-! ## Reading the output -/

section Output

variable {t : LoggedTest} {ts : List LoggedTest} {logs : Logs} {rest : List Line}

/-- The start of a test opens an empty log. -/
theorem ofRuns_runText (hne : t.name ≠ []) (logs : Logs) (rest : List Line) :
    ofRuns logs (t.runText :: rest) = ofRuns ((t.name, []) :: logs) rest := by
  obtain ⟨m, hm, hgroup⟩ := t.find?_runText hne
  rw [ofRuns, hm]
  dsimp only
  rw [hgroup]

/-- Logged lines go to the newest test, newest first. -/
theorem ofRuns_logText {name : List Char} {ls logged : List Line} (hls : ∀ l ∈ ls, l ∈ t.log)
    (hend : ∀ l ∈ ls, ¬BeginsEnd l) :
    ofRuns ((name, logged) :: logs) (ls.map logText ++ rest) =
      ofRuns ((name, ls.reverse ++ logged) :: logs) rest := by
  induction ls generalizing logged with
  | nil => rfl
  | cons l ls ih =>
    obtain ⟨hl, hls⟩ := List.forall_mem_cons.mp hls
    obtain ⟨hfirst, hend⟩ := List.forall_mem_cons.mp hend
    have hprefix : "    ".toList.isPrefixOf (logText l) = true :=
      List.isPrefixOf_iff_prefix.mpr (List.prefix_append _ _)
    have htrim : trim (logText l) = l := by
      rw [logText, trim_blanks_append (List.all_eq_true.mp rfl), (t.log_trimmed l hl).2.1]
    rw [List.map_cons, List.cons_append, ofRuns, find?_runLine_logText,
      (t.find?_endLine_logText_eq_none_iff hl).mpr hfirst]
    dsimp only
    rw [if_pos hprefix, htrim, addLog, ih hls hend, List.reverse_cons, List.append_assoc,
      List.singleton_append]

/-- What a test has logged is its message, unless it has logged nothing. -/
theorem message?_log (t : LoggedTest) :
    message? (joinLines t.log) =
      if t.log ≠ [] then some (String.ofList (joinLines t.log)) else none := by
  have hempty : (joinLines t.log).isEmpty = true ↔ t.log = [] := by
    cases hlog : t.log with
    | nil => exact iff_of_true rfl rfl
    | cons l ls =>
      have hne : l ≠ [] := (t.log_trimmed l (hlog ▸ List.mem_cons_self)).1
      refine iff_of_false (fun h => ?_) (List.cons_ne_nil l ls)
      rw [List.isEmpty_iff] at h
      cases ls with
      | nil => exact hne (joinLines_singleton l ▸ h)
      | cons next ls =>
        rw [joinLines_cons l (List.cons_ne_nil next ls)] at h
        exact hne (List.append_eq_nil_iff.mp h).1
  simp only [message?, hempty, ne_eq, ite_not]

/-- At its end a test finds its own lines, since it was the last to start. -/
theorem ofRuns_endText (hne : t.name ≠ []) (logs : Logs) (rest : List Line) :
    ofRuns ((t.name, t.log.reverse) :: logs) (endText t.status t.name t.seconds :: rest) =
      t.result :: ofRuns ((t.name, t.log.reverse) :: logs) rest := by
  obtain ⟨m, hm, hword, hname, hseconds⟩ := t.find?_endText hne
  have hlog : logOf? ((t.name, t.log.reverse) :: logs) t.name = message? (joinLines t.log) := by
    rw [logOf?, List.lookup_cons_self, Option.bind_some, List.reverse_reverse]
  have hended : ended ((t.name, t.log.reverse) :: logs) m = t.result := by
    rw [ended, hword, hname, hseconds, hlog, message?_log, outcome, t.isName.trim_eq, result]
    cases t.status <;> simp [endWord]
  rw [ofRuns, t.find?_runLine_endText, hm]
  dsimp only
  rw [hended]

/-- Test after test is read, each with its own log. -/
theorem ofRuns_texts (h : ∀ t ∈ ts, t.name ≠ [] ∧ ∀ l ∈ t.log, ¬BeginsEnd l) (logs : Logs) :
    ofRuns logs (ts.flatMap texts) = ts.map result := by
  induction ts generalizing logs with
  | nil => rfl
  | cons t ts ih =>
    obtain ⟨⟨hne, hlog⟩, hts⟩ := List.forall_mem_cons.mp h
    rw [List.flatMap_cons, texts, List.cons_append, ofRuns_runText hne, List.append_assoc,
      ofRuns_logText (fun _ hl => hl) hlog, List.append_nil, List.singleton_append,
      ofRuns_endText hne, ih hts, List.map_cons]

/-- Tests are read in order with their statuses, and each failed test with the lines that it has
logged itself, exactly when all tests have names and no logged line begins like an end. -/
theorem outcomes_logged_iff (ts : List LoggedTest) :
    outcomes .goTest (printed ts) = ts.map result ↔
      ∀ t ∈ ts, t.name ≠ [] ∧ ∀ l ∈ t.log, ¬BeginsEnd l := by
  rw [outcomes, lines_printed]
  refine ⟨fun h => ?_, fun h => ofRuns_texts h []⟩
  have hnames : (ts.flatMap fun t => t.texts.filterMap endedName?) =
      ts.map fun t => String.ofList t.name := by
    rw [← List.filterMap_flatMap, ← map_name_ofRuns [], h, List.map_map]
    rfl
  have hne : ∀ t ∈ ts, t.name ≠ [] := by
    intro t ht hnil
    have hmem : String.ofList t.name ∈ ts.flatMap fun t => t.texts.filterMap endedName? :=
      hnames ▸ List.mem_map_of_mem ht
    obtain ⟨u, -, hu⟩ := List.mem_flatMap.mp hmem
    obtain ⟨l, -, hl⟩ := List.mem_filterMap.mp hu
    exact endedName?_ne_empty hl (hnil ▸ rfl)
  intro t ht
  refine ⟨hne t ht, fun l hl hbegins => ?_⟩
  -- each test has an outcome of its own, so one more would be too many
  have hown (u : LoggedTest) (hu : u ∈ ts) : 1 ≤ (u.texts.filterMap endedName?).length := by
    rw [filterMap_texts u (hne u hu), List.length_append, List.length_singleton]
    omega
  have hmore : 1 < (t.texts.filterMap endedName?).length := by
    obtain ⟨s, hs⟩ := exists_endedName?_logText hl hbegins
    have hmem : s ∈ (t.log.map logText).filterMap endedName? :=
      List.mem_filterMap.mpr ⟨_, List.mem_map_of_mem hl, hs⟩
    have hlog := List.length_pos_of_mem hmem
    rw [filterMap_texts t (hne t ht), List.length_append, List.length_singleton]
    omega
  have hlt := List.sum_lt_sum _ _ hown ⟨t, ht, hmore⟩
  have hlength := congrArg List.length hnames
  rw [List.length_flatMap, List.length_map] at hlength
  rw [hlength] at hlt
  simp at hlt

/-- A failed test that has logged what begins like the end of another one. -/
def retried : LoggedTest where
  name := "TestRetry".toList
  status := .failed
  seconds := "0.02".toList
  log := ["--- PASS: TestInner (0.01s) again".toList]
  isName := fun c hc => Bool.eq_false_iff.mpr (List.any_eq_false.mp (by decide) c hc)
  isDuration := ⟨by decide, List.all_eq_true.mp (by decide)⟩
  log_trimmed := by decide

/-- A passed test without a name. -/
def unnamed : LoggedTest where
  name := []
  status := .passed
  seconds := "0.02".toList
  log := []
  isName := List.forall_mem_nil _
  isDuration := ⟨by decide, List.all_eq_true.mp (by decide)⟩
  log_trimmed := List.forall_mem_nil _

example : printed [retried] =
    "=== RUN   TestRetry\n    --- PASS: TestInner (0.01s) again\n".toList ++
      "--- FAIL: TestRetry (0.02s)\n".toList := by
  decide

/-- It is not enough that no logged line is an end as a whole, and no test can be without a name. -/
theorem ends_can_be_mistaken :
    (¬∀ ts : List LoggedTest, (∀ t ∈ ts, t.name ≠ [] ∧ ∀ l ∈ t.log, ¬IsEnd l) →
      outcomes .goTest (printed ts) = ts.map result) ∧
    ¬∀ ts : List LoggedTest, (∀ t ∈ ts, ∀ l ∈ t.log, ¬BeginsEnd l) →
      outcomes .goTest (printed ts) = ts.map result := by
  constructor
  · intro h
    have hlog : ∀ l ∈ retried.log, ¬IsEnd l := by
      intro l hl
      rw [List.mem_singleton.mp hl]
      rintro ⟨status, name, seconds, -, -, -, hend⟩
      have hlast := congrArg List.getLast? hend
      rw [getLast?_endText] at hlast
      exact absurd (Option.some.inj hlast) (by decide)
    have hlength := congrArg List.length
      (h [retried] (List.forall_mem_singleton.mpr ⟨List.cons_ne_nil _ _, hlog⟩))
    revert hlength
    decide
  · intro h
    have hlength := congrArg List.length
      (h [unnamed] (List.forall_mem_singleton.mpr (List.forall_mem_nil _)))
    revert hlength
    decide

end Output

end LoggedTest

end Adjudicator.Console
