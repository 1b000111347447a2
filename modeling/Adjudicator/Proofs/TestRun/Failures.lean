import Adjudicator.Proofs.Pattern.Taken
import Adjudicator.Proofs.TestRun.Names
import Adjudicator.Proofs.Text.Lines
import Adjudicator.TestRun.Console

/-!
# Failures in what runners print

Which failures of an output are among the outcomes read from it. Outcomes are told apart by their
names alone, so a failure can be lost to an outcome that its name matches. Main statement: a failure
behind a bullet is lost exactly when the marked lines have its name and none of them failed; of the
failures of test classes exactly the first of each method is left, whatever its class is.
-/

namespace Adjudicator.Console

open Text Pattern TestRun

/-! ## Outcomes of a name -/

section Names

variable {os : List TestOutcome} {name other : List Char} {p : TestStatus → Bool}

/-- An outcome without its message. -/
def bare (o : TestOutcome) : TestOutcome :=
  { o with message := none }

/-- A message is all that an attached message changes. -/
theorem map_bare_attach (name message : List Char) (os : List TestOutcome) :
    (attach name message os).map bare = os.map bare := by
  induction os with
  | nil => rfl
  | cons o os ih =>
    rw [attach]
    split
    · rfl
    · rw [List.map_cons, List.map_cons, ih]

/-- Attaching a message changes no name and no status. -/
theorem map_bare_attachMessage (name message : List Char) (os : List TestOutcome) :
    (attachMessage name message os).map bare = os.map bare := by
  rw [attachMessage]
  split
  · rfl
  · exact map_bare_attach name message os

/-- Some outcome has the name and one of some statuses. -/
def Shows (p : TestStatus → Bool) (os : List TestOutcome) (name : List Char) : Prop :=
  ∃ o ∈ os, p o.status = true ∧ namesMatch o.name.toList name = true

/-- Some outcome has the name. -/
abbrev Known : List TestOutcome → List Char → Prop :=
  Shows fun _ => true

/-- Some failed outcome has the name. -/
abbrev Fails : List TestOutcome → List Char → Prop :=
  Shows fun status => status == .failed

/-- The name is known, and no outcome of it failed. -/
def Lost (os : List TestOutcome) (name : List Char) : Prop :=
  Known os name ∧ ¬Fails os name

instance (p : TestStatus → Bool) (os : List TestOutcome) (name : List Char) :
    Decidable (Shows p os name) :=
  inferInstanceAs
    (Decidable (∃ o ∈ os, p o.status = true ∧ namesMatch o.name.toList name = true))

instance (os : List TestOutcome) (name : List Char) : Decidable (Lost os name) :=
  inferInstanceAs (Decidable (Known os name ∧ ¬Fails os name))

/-- What outcomes show does not depend on their messages. -/
theorem shows_congr {os os' : List TestOutcome} (h : os.map bare = os'.map bare) :
    Shows p os name ↔ Shows p os' name := by
  have key (os : List TestOutcome) : Shows p os name ↔
      ∃ o ∈ os.map bare, p o.status = true ∧ namesMatch o.name.toList name = true := by
    simp only [Shows, List.mem_map, exists_exists_and_eq_and, bare]
  rw [key, key, h]

/-- Outcomes in a row show what the ones or the others do. -/
theorem shows_append {os os' : List TestOutcome} :
    Shows p (os ++ os') name ↔ Shows p os name ∨ Shows p os' name := by
  simp only [Shows, List.mem_append, or_and_right, exists_or]

/-- An outcome is found under the names that its own name matches. -/
theorem namesMatch_outcome (name other : List Char) (status : TestStatus) :
    namesMatch (outcome name status).name.toList other = namesMatch name other := by
  rw [outcome, String.toList_ofList, namesMatch_trim]

/-- One outcome shows the names that match its own. -/
theorem shows_outcome {status : TestStatus} (h : p status = true) :
    Shows p [outcome name status] other ↔ namesMatch name other = true := by
  simp only [Shows, List.mem_singleton, exists_eq_left, namesMatch_outcome]
  exact and_iff_right h

/-- A search for a name finds it exactly when it is known. -/
theorem any_iff_known :
    (os.any fun o => namesMatch o.name.toList name) = true ↔ Known os name := by
  simp only [Shows, List.any_eq_true, true_and]

/-- Names that match are shown alike. -/
theorem shows_of_namesMatch (h : namesMatch name other = true) :
    Shows p os name ↔ Shows p os other := by
  have hsymm (o : TestOutcome) :
      namesMatch o.name.toList name = true ↔ namesMatch o.name.toList other = true :=
    ⟨fun ho => namesMatch_trans ho h, fun ho => namesMatch_trans ho (namesMatch_symm h)⟩
  simp only [Shows, hsymm]

end Names

/-! ## Failures behind bullets -/

section Bullets

variable {os : List TestOutcome} {name other message : List Char} {p : TestStatus → Bool}
  {l : Line} {ls : List Line} {m : Match}

/-- The outcomes with the failure behind one header. -/
def addFailure (name message : List Char) (os : List TestOutcome) : List TestOutcome :=
  attachMessage name message
    (if os.any fun o => namesMatch o.name.toList name then os else os ++ [outcome name .failed])

/-- A line that is no header adds no failure. -/
theorem addBulletFailures_of_none (h : bulletHeader.find? l = none) (os : List TestOutcome)
    (rest : List Line) : addBulletFailures os (l :: rest) = addBulletFailures os rest := by
  rw [addBulletFailures, h]

/-- A header adds the failure of its name, with the lines up to the next header. -/
theorem addBulletFailures_of_some (h : bulletHeader.find? l = some m) (os : List TestOutcome)
    (rest : List Line) :
    addBulletFailures os (l :: rest) =
      addBulletFailures (addFailure (m.group 1)
        (block (fun l => bulletHeader.found l || isTrace l) rest) os) rest := by
  rw [addBulletFailures, h]
  rfl

/-- What one header adds is a failed outcome of an unknown name. -/
theorem shows_addFailure (hp : p .failed = true) :
    Shows p (addFailure name message os) other ↔
      Shows p os other ∨ (¬Known os name ∧ namesMatch name other = true) := by
  rw [addFailure, shows_congr (map_bare_attachMessage ..)]
  split
  next h =>
    rw [any_iff_known] at h
    simp only [h, not_true_eq_false, false_and, or_false]
  next h =>
    rw [any_iff_known] at h
    rw [shows_append, shows_outcome hp, and_iff_right h]

/-- A header neither loses a name nor finds a lost one. -/
theorem lost_addFailure : Lost (addFailure name message os) other ↔ Lost os other := by
  have hknown : Known (addFailure name message os) other ↔
      Known os other ∨ (¬Known os name ∧ namesMatch name other = true) := shows_addFailure rfl
  have hfails : Fails (addFailure name message os) other ↔
      Fails os other ∨ (¬Known os name ∧ namesMatch name other = true) := shows_addFailure rfl
  rw [Lost, Lost, hknown, hfails]
  by_cases h : ¬Known os name ∧ namesMatch name other = true
  · -- the name is new, so it is lost neither before the header nor, with its failure, behind it
    have hunknown : ¬Known os other := mt (shows_of_namesMatch h.2).mpr h.1
    exact iff_of_false (fun hlost => hlost.2 (.inr h)) fun hlost => hunknown hlost.1
  · simp only [h, or_false]

/-- The failures behind headers add no lost name and take none away. -/
theorem lost_addBulletFailures (os : List TestOutcome) (ls : List Line) :
    Lost (addBulletFailures os ls) other ↔ Lost os other := by
  induction ls generalizing os with
  | nil => rfl
  | cons l rest ih =>
    cases h : bulletHeader.find? l with
    | none => rw [addBulletFailures_of_none h, ih]
    | some m => rw [addBulletFailures_of_some h, ih, lost_addFailure]

/-- A known name stays known. -/
theorem Known.addBulletFailures (h : Known os other) (ls : List Line) :
    Known (addBulletFailures os ls) other := by
  induction ls generalizing os with
  | nil => exact h
  | cons l rest ih =>
    cases hl : bulletHeader.find? l with
    | none =>
      rw [addBulletFailures_of_none hl]
      exact ih h
    | some m =>
      rw [addBulletFailures_of_some hl]
      exact ih ((shows_addFailure rfl).mpr (.inl h))

/-- The name behind a bullet is known in the end. -/
theorem known_of_header (hl : l ∈ ls) (hm : bulletHeader.find? l = some m)
    (os : List TestOutcome) : Known (addBulletFailures os ls) (m.group 1) := by
  induction ls generalizing os with
  | nil => cases hl
  | cons first rest ih =>
    rcases List.mem_cons.mp hl with rfl | hl
    · rw [addBulletFailures_of_some hm]
      refine Known.addBulletFailures ((shows_addFailure rfl).mpr ?_) rest
      by_cases h : Known os (m.group 1)
      · exact .inl h
      · exact .inr ⟨h, namesMatch_refl _⟩
    · cases hfirst : bulletHeader.find? first with
      | none =>
        rw [addBulletFailures_of_none hfirst]
        exact ih hl os
      | some _ =>
        rw [addBulletFailures_of_some hfirst]
        exact ih hl _

/-- A failure behind a bullet is an outcome unless its name is lost to the marked lines. -/
theorem fails_of_header (hl : l ∈ ls) (hm : bulletHeader.find? l = some m) :
    Fails (ofScripts ls) (m.group 1) ↔ ¬Lost (ls.filterMap marked?) (m.group 1) := by
  rw [← lost_addBulletFailures (ls.filterMap marked?) ls, Lost,
    and_iff_right (known_of_header hl hm _), not_not]
  rfl

end Bullets

/-! ## Failures of test classes -/

section Tasks

variable {l : Line} {before rest : List Line} {m : Match}

/-- What a line reports of a test. -/
structure Report where
  /-- The outcome of the test. -/
  outcome : TestOutcome
  /-- Whether the line stands for a test with its result, and not for a failure alone. -/
  isTask : Bool
deriving DecidableEq, Repr

/-- The outcome of a task with the lines behind it. -/
def taskOutcome (m : Match) (rest : List Line) : TestOutcome :=
  let status :=
    match String.ofList (m.group 3) with
    | "PASSED" => TestStatus.passed
    | "SKIPPED" => .skipped
    | _ => .failed
  { outcome (m.group 2) status with
    message := if status = .failed then message? (block endsMessage rest) else none }

/-- The failed outcome of a failure. -/
def failureOutcome (m : Match) : TestOutcome :=
  { outcome (m.group 2) .failed with message := some (String.ofList (trim (m.group 4))) }

/-- What a line reports with the lines behind it. -/
def report? (l : Line) (rest : List Line) : Option Report :=
  match taskLine.find? l with
  | some m => some ⟨taskOutcome m rest, true⟩
  | none =>
    match errorLine.find? l with
    | some m => if isTestClass (m.group 1) then some ⟨failureOutcome m, false⟩ else none
    | none => none

/-- All that lines report. -/
def reports : List Line → List Report
  | [] => []
  | l :: rest => (report? l rest).toList ++ reports rest

/-- A failure is left out when its name is there already. -/
def Report.add (done : List TestOutcome) (r : Report) : List TestOutcome :=
  if r.isTask || done.all fun d => d.name != r.outcome.name then done ++ [r.outcome] else done

/-- What the first line reports is added first. -/
theorem ofTasks_cons (done : List TestOutcome) (l : Line) (rest : List Line) :
    ofTasks done (l :: rest) = ofTasks ((report? l rest).toList.foldl Report.add done) rest := by
  rw [ofTasks, report?]
  cases taskLine.find? l with
  | some m => rfl
  | none =>
    cases errorLine.find? l with
    | none => rfl
    | some m =>
      dsimp only
      cases isTestClass (m.group 1) with
      | false => rfl
      | true => exact (apply_ite (ofTasks · rest) _ _ _).symm

/-- The outcomes are the reports, one added after the other. -/
theorem ofTasks_eq_foldl (done : List TestOutcome) (ls : List Line) :
    ofTasks done ls = (reports ls).foldl Report.add done := by
  induction ls generalizing done with
  | nil => rfl
  | cons l rest ih => rw [ofTasks_cons, reports, List.foldl_append, ih]

/-- The reports of one name that are left: the first one and the tasks behind it. -/
def kept : List Report → List TestOutcome
  | [] => []
  | r :: rest => r.outcome :: (rest.filter Report.isTask).map Report.outcome

/-- Whether a report is of a name. -/
def Report.isOf (name : String) (r : Report) : Bool :=
  r.outcome.name == name

/-- Outcomes of a name. -/
def named (name : String) (os : List TestOutcome) : List TestOutcome :=
  os.filter fun o => o.name == name

section Kept

variable {name : String} {r : Report} {rs : List Report} {done : List TestOutcome}

/-- Outcomes of other names play no part in what a report adds. -/
theorem named_add (name : String) (r : Report) (done : List TestOutcome) :
    named name (r.add done) = if r.isOf name then r.add (named name done) else named name done := by
  have happend : named name (done ++ [r.outcome]) =
      if r.isOf name then named name done ++ [r.outcome] else named name done := by
    rw [named, List.filter_append, List.filter_singleton, Report.isOf]
    cases r.outcome.name == name with
    | false => exact List.append_nil _
    | true => rfl
  rw [Report.add]
  cases hof : r.isOf name with
  | false =>
    rw [hof, if_neg Bool.false_ne_true] at happend
    rw [if_neg Bool.false_ne_true, apply_ite (named name), happend, ite_self]
  | true =>
    obtain rfl : r.outcome.name = name := beq_iff_eq.mp hof
    have hall : ((named r.outcome.name done).all fun d => d.name != r.outcome.name) =
        done.all fun d => d.name != r.outcome.name := by
      rw [named, List.all_filter]
      simp only [bne, Bool.or_self]
    rw [hof, if_pos rfl] at happend
    rw [if_pos rfl, apply_ite (named r.outcome.name), happend, Report.add, hall]

/-- The outcomes of a name are the reports of this name, one added after the other. -/
theorem named_foldl_add (name : String) (rs : List Report) (done : List TestOutcome) :
    named name (rs.foldl Report.add done) =
      (rs.filter (Report.isOf name)).foldl Report.add (named name done) := by
  induction rs generalizing done with
  | nil => rfl
  | cons r rest ih =>
    rw [List.foldl_cons, ih, named_add, List.filter_cons]
    cases r.isOf name <;> rfl

/-- Behind an outcome of their name only tasks are added. -/
theorem foldl_add_of_isOf (hrs : ∀ r ∈ rs, r.isOf name = true)
    (hdone : ∃ d ∈ done, d.name = name) :
    rs.foldl Report.add done = done ++ (rs.filter Report.isTask).map Report.outcome := by
  induction rs generalizing done with
  | nil => exact (List.append_nil done).symm
  | cons r rest ih =>
    obtain ⟨hr, hrest⟩ := List.forall_mem_cons.mp hrs
    obtain ⟨d, hd, hname⟩ := hdone
    have hknown : (done.all fun d => d.name != r.outcome.name) = false := by
      rw [List.all_eq_false]
      refine ⟨d, hd, ?_⟩
      rw [hname, beq_iff_eq.mp hr, bne_self_eq_false]
      exact Bool.false_ne_true
    rw [List.foldl_cons, Report.add, hknown, Bool.or_false, List.filter_cons]
    split
    · rw [ih hrest ⟨d, List.mem_append_left _ hd, hname⟩, List.map_cons, List.append_assoc]
      rfl
    · exact ih hrest ⟨d, hd, hname⟩

/-- Of each name the first report is left, and every task behind it. -/
theorem named_ofTasks (name : String) (ls : List Line) :
    named name (ofTasks [] ls) = kept ((reports ls).filter (Report.isOf name)) := by
  rw [ofTasks_eq_foldl, named_foldl_add]
  cases hof : (reports ls).filter (Report.isOf name) with
  | nil => rfl
  | cons r rest =>
    have hall : ∀ r' ∈ r :: rest, r'.isOf name = true := by
      rw [← hof]
      exact fun _ => List.of_mem_filter
    obtain ⟨hr, hrest⟩ := List.forall_mem_cons.mp hall
    have hfirst : r.add [] = [r.outcome] := by
      rw [Report.add, List.all_nil, Bool.or_true, if_pos rfl, List.nil_append]
    rw [List.foldl_cons, show named name [] = [] from rfl, hfirst,
      foldl_add_of_isOf hrest ⟨r.outcome, List.mem_singleton_self _, beq_iff_eq.mp hr⟩]
    rfl

end Kept

/-- A failure begins with its mark. -/
theorem prefix_of_errorLine (hm : errorLine.find? l = some m) : "[ERROR]".toList <+: l := by
  have hp : errorLine.tryAt = (textStart ++ (text "[ERROR]" ++ (space ++ (group 1 word ++ ("." ++
      (group 2 word ++ (opt (":" ++ group 3 digit.plus) ++ (space ++ (group 4 dot.star ++
        textEnd))))))))).tryAt := rfl
  by_contra hnot
  rw [find?_eq_none_of_not_start hp hnot] at hm
  cases hm

/-- A failure is no task, which begins with a word. -/
theorem taskLine_of_errorLine (hm : errorLine.find? l = some m) : taskLine.find? l = none := by
  obtain ⟨rest, rfl⟩ := prefix_of_errorLine hm
  have hword : word.Rejects (· == '[') := by
    refine Rejects.append (rejects_one fun x hx => ?_)
    rw [beq_iff_eq.mp hx]
    decide
  have hp : taskLine.tryAt = (textStart ++ (group 1 word ++ (" > " ++ (group 2 word ++ ("()" ++
      (space ++ group 3 (choice ["PASSED", "FAILED", "SKIPPED"]))))))).tryAt := rfl
  rw [find?_of_textStart hp, Rejects.append (hword.group 1) _ '[' _ rfl rfl, Option.map_none]

/-- The line of an error in a test class is reported as a failure. -/
theorem report?_of_errorLine (hm : errorLine.find? l = some m)
    (hclass : isTestClass (m.group 1) = true) (rest : List Line) :
    report? l rest = some ⟨failureOutcome m, false⟩ := by
  rw [report?, taskLine_of_errorLine hm, hm]
  exact if_pos hclass

/-- A failure ends the message in front of it. -/
theorem endsMessage_of_errorLine (hm : errorLine.find? l = some m) : endsMessage l = true := by
  obtain ⟨rest, rfl⟩ := prefix_of_errorLine hm
  rfl

/-- A block that nothing ends is all of its lines, trimmed one by one and as a whole. -/
theorem block_of_forall {stop : Line → Bool} (ls : List Line) (h : ∀ l ∈ ls, stop l = false) :
    block stop ls = trim (joinLines (ls.map trim)) := by
  have htake : ls.takeWhile (fun l => !stop l) = ls := by
    rw [List.takeWhile_eq_self_iff]
    intro l hl
    rw [h l hl]
    rfl
  rw [block, htake, trim_joinLines_dropWhile_isEmpty]

/-- What follows the end of a block is no part of it. -/
theorem block_append {stop : Line → Bool} (h : stop l = true) (before rest : List Line) :
    block stop (before ++ l :: rest) = block stop before := by
  have htake : (before ++ l :: rest).takeWhile (fun l => !stop l) =
      before.takeWhile fun l => !stop l := by
    induction before with
    | nil => rw [List.nil_append, List.takeWhile_cons, h, List.takeWhile_nil]; rfl
    | cons first before ih => rw [List.cons_append, List.takeWhile_cons, List.takeWhile_cons, ih]
  rw [block, htake, block]

/-- Lines behind the end of a message report on their own. -/
theorem reports_append (h : endsMessage l = true) (before rest : List Line) :
    reports (before ++ l :: rest) = reports before ++ reports (l :: rest) := by
  induction before with
  | nil => rfl
  | cons first before ih =>
    have hreport : report? first (before ++ l :: rest) = report? first before := by
      simp only [report?, taskOutcome, block_append h]
    rw [List.cons_append, reports.eq_2, hreport, ih, reports.eq_2 first, List.append_assoc]

/-- A failure of a test class is left with its message when no report before it has its name. -/
theorem failureOutcome_mem_ofTasks {rs rs' : List Report} {ls : List Line}
    (h : reports ls = rs ++ ⟨failureOutcome m, false⟩ :: rs')
    (hfirst : ∀ r ∈ rs, r.outcome.name ≠ (failureOutcome m).name) :
    failureOutcome m ∈ ofTasks [] ls := by
  have hnone : rs.filter (Report.isOf (failureOutcome m).name) = [] := by
    rw [List.filter_eq_nil_iff]
    exact fun r hr => mt beq_iff_eq.mp (hfirst r hr)
  have hof : Report.isOf (failureOutcome m).name ⟨failureOutcome m, false⟩ = true :=
    beq_self_eq_true _
  have hkept := named_ofTasks (failureOutcome m).name ls
  rw [h, List.filter_append, hnone, List.nil_append, List.filter_cons_of_pos hof, kept] at hkept
  have hmem : failureOutcome m ∈ named (failureOutcome m).name (ofTasks [] ls) := by
    rw [hkept]
    exact List.mem_cons_self
  exact List.mem_of_mem_filter hmem

end Tasks

/-! ## What is left of failures -/

/-- A failure behind a bullet is left unless its name is lost to the marked lines. A failure of a
test class is left with its own message when no line before it reports a test of its name; of each
name exactly the first report is left, and every task behind it. -/
theorem failures_left_by_name (output : List Char) :
    (∀ runner ∈ [Runner.jest, .vitest, .mocha], ∀ l ∈ lines output, ∀ m,
      bulletHeader.find? l = some m →
        (Fails (outcomes runner output) (m.group 1) ↔
          ¬Lost ((lines output).filterMap marked?) (m.group 1))) ∧
    ∀ runner ∈ [Runner.maven, .gradle],
      (∀ name, named name (outcomes runner output) =
        kept ((reports (lines output)).filter (Report.isOf name))) ∧
      ∀ before l after m, lines output = before ++ l :: after →
        errorLine.find? l = some m → isTestClass (m.group 1) = true →
          reports (lines output) = reports before ++ ⟨failureOutcome m, false⟩ :: reports after ∧
          ((∀ r ∈ reports before, r.outcome.name ≠ (failureOutcome m).name) →
            failureOutcome m ∈ outcomes runner output) := by
  refine ⟨fun runner hrunner l hl m hm => ?_, fun runner hrunner => ?_⟩
  · have hscripts : outcomes runner output = ofScripts (lines output) := by
      simp only [List.mem_cons, List.not_mem_nil, or_false] at hrunner
      rcases hrunner with rfl | rfl | rfl <;> rfl
    rw [hscripts]
    exact fails_of_header hl hm
  · have htasks : outcomes runner output = ofTasks [] (lines output) := by
      simp only [List.mem_cons, List.not_mem_nil, or_false] at hrunner
      rcases hrunner with rfl | rfl <;> rfl
    rw [htasks]
    refine ⟨fun name => named_ofTasks name _, fun before l after m hlines hm hclass => ?_⟩
    have hreports : reports (lines output) =
        reports before ++ ⟨failureOutcome m, false⟩ :: reports after := by
      rw [hlines, reports_append (endsMessage_of_errorLine hm), reports.eq_2 l,
        report?_of_errorLine hm hclass]
      rfl
    exact ⟨hreports, failureOutcome_mem_ofTasks hreports⟩

/-- A failure is left behind a mark of its own, and a failure of a test class with its message. -/
theorem marked_failure_is_left :
    Fails (outcomes .jest "  ✕ adds\n  ● Cart › adds\n    boom".toList) "Cart › adds".toList ∧
    { outcome "total".toList .failed with message := some "no total" } ∈
      outcomes .maven "[ERROR]   CartTest.total:12 no total".toList := by
  constructor
  · obtain ⟨m, hm, hname⟩ : ∃ m, bulletHeader.find? "  ● Cart › adds".toList = some m ∧
        m.group 1 = "Cart › adds".toList :=
      ⟨⟨"  ● Cart › adds".toList, 0, 15, [(1, 4, 15)]⟩, by decide⟩
    rw [← hname]
    refine ((failures_left_by_name _).1 .jest (by decide) _ (by decide) m hm).mpr ?_
    rw [hname]
    decide
  · obtain ⟨m, hm, hclass, ho⟩ :
        ∃ m, errorLine.find? "[ERROR]   CartTest.total:12 no total".toList = some m ∧
          isTestClass (m.group 1) = true ∧ failureOutcome m =
            { outcome "total".toList .failed with message := some "no total" } :=
      ⟨⟨"[ERROR]   CartTest.total:12 no total".toList, 0, 36,
        [(4, 28, 36), (3, 25, 27), (2, 19, 24), (1, 10, 18)]⟩, by decide⟩
    rw [← ho]
    exact (((failures_left_by_name _).2 .maven (by decide)).2 [] _ [] m (by decide) hm
      hclass).2 nofun

/-- A failure is lost to a passed test of its title, and to a test of its name in another class. -/
theorem failures_can_be_lost :
    ¬(∀ (output : List Char), ∀ l ∈ lines output, ∀ m, bulletHeader.find? l = some m →
      Fails (outcomes .jest output) (m.group 1)) ∧
    ¬(∀ (output : List Char), ∀ l ∈ lines output, ∀ m, errorLine.find? l = some m →
      isTestClass (m.group 1) = true → failureOutcome m ∈ outcomes .maven output) := by
  constructor
  · intro h
    obtain ⟨m, hm, hname⟩ : ∃ m, bulletHeader.find? "  ● Cart › adds".toList = some m ∧
        m.group 1 = "Cart › adds".toList :=
      ⟨⟨"  ● Cart › adds".toList, 0, 15, [(1, 4, 15)]⟩, by decide⟩
    have hfails := h "  ✓ adds\n  ● Cart › adds\n    boom".toList _ (by decide) m hm
    rw [hname] at hfails
    revert hfails
    decide
  · intro h
    obtain ⟨m, hm, hclass, ho⟩ :
        ∃ m, errorLine.find? "[ERROR]   OrderTest.total:30 no price".toList = some m ∧
          isTestClass (m.group 1) = true ∧ failureOutcome m =
            { outcome "total".toList .failed with message := some "no price" } :=
      ⟨⟨"[ERROR]   OrderTest.total:30 no price".toList, 0, 37,
        [(4, 29, 37), (3, 26, 28), (2, 20, 25), (1, 10, 19)]⟩, by decide⟩
    have hmem := h
      "[ERROR]   CartTest.total:12 no total\n[ERROR]   OrderTest.total:30 no price".toList _
      (by decide) m hm hclass
    rw [ho] at hmem
    revert hmem
    decide

end Adjudicator.Console
