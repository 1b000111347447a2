import Adjudicator.Proofs.Report.Course
import Adjudicator.Proofs.Report.Gathering
import Mathlib.Logic.Hydra

/-!
# Assessments side by side

The assessments of all pairs are at work at once. At any moment any of them gets the answer to its
inquiry, finishes, or breaks off, so their inquiries and ends interleave in every possible way.
Main statement: however they are scheduled they come to an end, and then every pair has exactly one
report at its own position, the one its course yielded or the one that stands in for it. The
assessments that are made one after the other are one of the runs.
-/

namespace Adjudicator

open Assessor

/-- The assessments at work with the positions of their pairs, and what is known from the ended. -/
structure Pool where
  /-- The courses that have not ended. -/
  running : List (Nat × Course PairReport)
  /-- What is known from the others. -/
  gathering : Gathering

namespace Pool

/-- The assessments of all pairs before any of them has gone on. -/
def start (a : Assessor Course) (files : Path → Option String) (pairs : List Pair)
    (before : Progress) : Pool :=
  { running := pairs.zipIdx.map fun (pair, i) => (i, a.assess pair (files pair.method.file))
    gathering := .start pairs before }

/-- One of the assessments goes on. When it ends it leaves an entry for the log. -/
inductive Step : Pool → Option (Nat × Option PairReport) → Pool → Prop where
  /-- It gets the answer to its inquiry. -/
  | answer {left right : List (Nat × Course PairReport)} {g : Gathering} {i : Nat} {q : Inquiry}
      (next : q.Answer → Course PairReport) (answer : q.Answer) :
      Step ⟨left ++ (i, .inquire q next) :: right, g⟩ none ⟨left ++ (i, next answer) :: right, g⟩
  /-- It finishes with a report. -/
  | finish {left right : List (Nat × Course PairReport)} {g : Gathering} (i : Nat)
      (report : PairReport) :
      Step ⟨left ++ (i, .done report) :: right, g⟩ (some (i, some report))
        ⟨left ++ right, g.join (.finished i report)⟩
  /-- It breaks off, wherever it is. -/
  | breakOff {left right : List (Nat × Course PairReport)} {g : Gathering} (i : Nat)
      (c : Course PairReport) :
      Step ⟨left ++ (i, c) :: right, g⟩ (some (i, none)) ⟨left ++ right, g.join .broken⟩

/-- The pools that follow directly on a pool. -/
def Follows (later earlier : Pool) : Prop :=
  ∃ entry, Step earlier entry later

/-- Several steps, one after the other, and the log that they leave. -/
inductive Run (first : Pool) : Log → Pool → Prop where
  | refl : Run first [] first
  | step {log : Log} {p q : Pool} {entry : Option (Nat × Option PairReport)}
      (h : Run first log p) (hs : Step p entry q) : Run first (log ++ entry.toList) q

/-- No assessment is at work any more. -/
def Ended (p : Pool) : Prop :=
  ∀ entry q, ¬Step p entry q

/-- A pool has ended exactly when nothing is running. -/
theorem ended_iff {p : Pool} : p.Ended ↔ p.running = [] := by
  obtain ⟨running, g⟩ := p
  constructor
  · intro h
    cases running with
    | nil => rfl
    | cons task rest =>
      have hs : Step ⟨[] ++ (task.1, task.2) :: rest, g⟩ (some (task.1, none))
          ⟨[] ++ rest, g.join .broken⟩ := .breakOff task.1 task.2
      exact absurd hs (h _ _)
  · rintro h entry q hs
    cases hs <;> simp at h

/-! ## Scheduling comes to an end -/

/-- One course is what another goes on with after an answer. -/
private def Below (c d : Course PairReport) : Prop :=
  ∃ (q : Inquiry) (next : q.Answer → Course PairReport) (answer : q.Answer),
    d = .inquire q next ∧ c = next answer

private theorem wellFounded_below : WellFounded Below := by
  refine ⟨fun c => ?_⟩
  induction c with
  | done report =>
    refine ⟨_, ?_⟩
    rintro c ⟨q, next, answer, h, rfl⟩
    cases h
  | inquire q next ih =>
    refine ⟨_, ?_⟩
    rintro c ⟨q, next, answer, h, rfl⟩
    cases h
    exact ih answer

/-- The courses of a pool, whatever their order. -/
private def courses (p : Pool) : Multiset (Course PairReport) :=
  p.running.map Prod.snd

private theorem courses_middle (left right : List (Nat × Course PairReport)) (g g' : Gathering)
    (i : Nat) (c : Course PairReport) :
    courses ⟨left ++ (i, c) :: right, g⟩ = courses ⟨left ++ right, g'⟩ + {c} := by
  simp only [courses, List.map_append, List.map_cons, ← Multiset.coe_add, ← Multiset.cons_coe,
    ← Multiset.singleton_add]
  rw [add_left_comm, add_comm]

/-- No pool goes on forever: every step replaces a course by a later part of it or takes it away. -/
theorem wellFounded_follows : WellFounded Follows := by
  have hcut := wellFounded_below.cutExpand
  refine Subrelation.wf ?_ (InvImage.wf courses hcut)
  rintro q p ⟨entry, hs⟩
  rw [InvImage]
  cases hs with
  | @answer left right g i _ next answer =>
    rw [courses_middle left right g g, courses_middle left right g g]
    exact Relation.cutExpand_add_single _ ⟨_, next, answer, rfl, rfl⟩
  | @finish left right g i report =>
    rw [courses_middle left right g (g.join (.finished i report))]
    exact ⟨0, _, nofun, (add_zero _).symm⟩
  | @breakOff left right g i c =>
    rw [courses_middle left right g (g.join .broken)]
    exact ⟨0, _, nofun, (add_zero _).symm⟩

/-! ## What every run keeps -/

/-- The pair at a position has an assessment that may yield a report. -/
def MayReport (a : Assessor Course) (files : Path → Option String) (pairs : List Pair) (i : Nat)
    (report : PairReport) : Prop :=
  ∃ pair, pairs[i]? = some pair ∧ (a.assess pair (files pair.method.file)).Yields report

/-- What holds of a pool and its log throughout a run. -/
structure Invariant (a : Assessor Course) (files : Path → Option String) (pairs : List Pair)
    (before : Progress) (log : Log) (p : Pool) : Prop where
  /-- What is known is what the log says. -/
  gathering : p.gathering = log.gathered pairs before
  /-- Each position belongs either to a running course or to one entry of the log. -/
  positions : (p.running.map Prod.fst ++ log.map Prod.fst).Perm (List.range pairs.length)
  /-- What a running course may yield, the assessment of its pair may yield. -/
  running : ∀ i c, (i, c) ∈ p.running → ∀ report, c.Yields report →
    MayReport a files pairs i report
  /-- The reports in the log were yielded by the assessments of their pairs. -/
  reported : ∀ i report, (i, some report) ∈ log → MayReport a files pairs i report

variable {a : Assessor Course} {files : Path → Option String} {pairs : List Pair}
  {before : Progress}

private theorem positions_start (a : Assessor Course) (files : Path → Option String)
    (pairs : List Pair) (before : Progress) :
    (start a files pairs before).running.map Prod.fst = List.range pairs.length := by
  rw [start, List.map_map, List.range_eq_range']
  exact List.zipIdx_map_snd 0 pairs

private theorem mem_running_start {i : Nat} {c : Course PairReport} :
    (i, c) ∈ (start a files pairs before).running ↔
      ∃ pair, pairs[i]? = some pair ∧ c = a.assess pair (files pair.method.file) := by
  simp only [start, List.mem_map, Prod.exists, List.mem_zipIdx_iff_getElem?, Prod.mk.injEq]
  constructor
  · rintro ⟨pair, j, hpair, rfl, rfl⟩
    exact ⟨pair, hpair, rfl⟩
  · rintro ⟨pair, hpair, rfl⟩
    exact ⟨pair, i, hpair, rfl, rfl⟩

/-- The invariant holds before any assessment has gone on. -/
theorem invariant_start :
    Invariant a files pairs before [] (start a files pairs before) := by
  refine ⟨rfl, ?_, ?_, fun i report hm => absurd hm List.not_mem_nil⟩
  · rw [positions_start, List.map_nil, List.append_nil]
  · intro i c hm report hr
    obtain ⟨pair, hpair, rfl⟩ := mem_running_start.mp hm
    exact ⟨pair, hpair, hr⟩

/-- A course that ends in one of its reports, or in none, moves its position into the log. -/
private theorem Invariant.leave {log : Log} {left right : List (Nat × Course PairReport)}
    {g : Gathering} {i : Nat} {c : Course PairReport} {outcome : Option PairReport}
    (h : Invariant a files pairs before log ⟨left ++ (i, c) :: right, g⟩)
    (ho : ∀ report, outcome = some report → c.Yields report) :
    Invariant a files pairs before (log ++ [(i, outcome)])
      ⟨left ++ right, g.join (Log.ending (i, outcome))⟩ := by
  obtain ⟨hgathering, hpositions, hrunning, hreported⟩ := h
  refine ⟨?_, ?_, ?_, ?_⟩
  · rw [Log.gathered_concat, ← hgathering]
  · refine List.Perm.trans ?_ hpositions
    simp only [List.map_append, List.map_cons, List.map_nil, List.append_assoc, List.cons_append]
    refine List.Perm.append_left _ ?_
    rw [← List.append_assoc]
    exact List.perm_append_comm
  · intro j d hm
    apply hrunning j d
    rcases List.mem_append.mp hm with hl | hr
    · exact List.mem_append_left _ hl
    · exact List.mem_append_right _ (List.mem_cons_of_mem _ hr)
  · intro j report hm
    rcases List.mem_append.mp hm with hm | hm
    · exact hreported j report hm
    · obtain ⟨rfl, rfl⟩ := Prod.mk.inj (List.mem_singleton.mp hm)
      exact hrunning _ c (List.mem_append_right _ List.mem_cons_self) report (ho report rfl)

/-- Each step keeps the invariant. -/
theorem Invariant.step {log : Log} {p q : Pool} {entry : Option (Nat × Option PairReport)}
    (h : Invariant a files pairs before log p) (hs : Step p entry q) :
    Invariant a files pairs before (log ++ entry.toList) q := by
  cases hs with
  | @answer left right g i question next answer =>
    obtain ⟨hgathering, hpositions, hrunning, hreported⟩ := h
    refine ⟨by simpa using hgathering, by simpa using hpositions, ?_, by simpa using hreported⟩
    intro j c hm report hr
    rcases List.mem_append.mp hm with hm | hm
    · exact hrunning j c (List.mem_append_left _ hm) report hr
    · rcases List.mem_cons.mp hm with he | hm
      · obtain ⟨rfl, rfl⟩ := Prod.mk.inj he
        exact hrunning _ _ (List.mem_append_right _ List.mem_cons_self) report (.inquire answer hr)
      · exact hrunning j c (List.mem_append_right _ (List.mem_cons_of_mem _ hm)) report hr
  | finish i report =>
    refine h.leave ?_
    intro r hr
    obtain rfl := Option.some.inj hr
    exact .done report
  | breakOff i c => exact h.leave fun report hr => nomatch hr

/-- The invariant holds throughout every run. -/
theorem Run.invariant {log : Log} {p : Pool} (h : Run (start a files pairs before) log p) :
    Invariant a files pairs before log p := by
  induction h with
  | refl => exact invariant_start
  | step _ hs ih => exact ih.step hs

/-! ## Which logs there are -/

/-- One run after another. -/
theorem Run.trans {first p q : Pool} {log log' : Log} (h : Run first log p) (h' : Run p log' q) :
    Run first (log ++ log') q := by
  induction h' with
  | refl => rwa [List.append_nil]
  | step _ hs ih =>
    rw [← List.append_assoc]
    exact ih.step hs

private theorem Step.run {p q : Pool} {entry : Option (Nat × Option PairReport)}
    (hs : Step p entry q) : Run p entry.toList q :=
  Run.refl.step hs

/-- With the right answers a course gets to any report that it may yield. -/
private theorem run_answers {left right : List (Nat × Course PairReport)} {g : Gathering} {i : Nat}
    {c : Course PairReport} {report : PairReport} (h : c.Yields report) :
    Run ⟨left ++ (i, c) :: right, g⟩ [] ⟨left ++ (i, .done report) :: right, g⟩ := by
  induction h with
  | done report => exact .refl
  | inquire answer _ ih => exact (Step.answer _ answer).run.trans ih

/-- A course can end in any of its reports, or in none. -/
private theorem run_end {left right : List (Nat × Course PairReport)} {g : Gathering} {i : Nat}
    {c : Course PairReport} {outcome : Option PairReport}
    (h : ∀ report, outcome = some report → c.Yields report) :
    Run ⟨left ++ (i, c) :: right, g⟩ [(i, outcome)]
      ⟨left ++ right, g.join (Log.ending (i, outcome))⟩ := by
  cases outcome with
  | none => exact (Step.breakOff i c).run
  | some report => exact (run_answers (h report rfl)).trans (Step.finish i report).run

/-- The running courses can end in any order and in any of their reports. -/
private theorem exists_run {log : Log} {p : Pool}
    (hpositions : (log.map Prod.fst).Perm (p.running.map Prod.fst))
    (hyields : ∀ i report, (i, some report) ∈ log → ∀ c, (i, c) ∈ p.running → c.Yields report) :
    ∃ q, Run p log q ∧ q.running = [] := by
  induction log generalizing p with
  | nil => exact ⟨p, .refl, List.map_eq_nil_iff.mp (List.nil_perm.mp hpositions)⟩
  | cons entry rest ih =>
    obtain ⟨i, outcome⟩ := entry
    obtain ⟨running, g⟩ := p
    have hi : i ∈ running.map Prod.fst := hpositions.mem_iff.mp List.mem_cons_self
    obtain ⟨⟨j, c⟩, hc, rfl⟩ := List.mem_map.mp hi
    obtain ⟨left, right, rfl⟩ := List.append_of_mem hc
    have hend : Run ⟨left ++ (j, c) :: right, g⟩ [(j, outcome)]
        ⟨left ++ right, g.join (Log.ending (j, outcome))⟩ := by
      apply run_end
      rintro report rfl
      exact hyields j report List.mem_cons_self c hc
    have hrest : (rest.map Prod.fst).Perm ((left ++ right).map Prod.fst) := by
      simp only [List.map_cons, List.map_append] at hpositions ⊢
      exact (hpositions.trans List.perm_middle).cons_inv
    obtain ⟨q, hq, hdone⟩ := ih (p := ⟨left ++ right, g.join (Log.ending (j, outcome))⟩) hrest <| by
      intro k report hm d hd
      refine hyields k report (List.mem_cons_of_mem _ hm) d ?_
      rcases List.mem_append.mp hd with hl | hr
      · exact List.mem_append_left _ hl
      · exact List.mem_append_right _ (List.mem_cons_of_mem _ hr)
    exact ⟨q, hend.trans hq, hdone⟩

/-- The logs of all orders of ends and of all choices of assessments that break off: each pair has
one entry, and the reports are such that the assessments may yield. -/
structure Possible (a : Assessor Course) (files : Path → Option String) (pairs : List Pair)
    (log : Log) : Prop where
  /-- Each position has one entry. -/
  positions : (log.map Prod.fst).Perm (List.range pairs.length)
  /-- Each report is one that the assessment of the pair at its position may yield. -/
  reported : ∀ i report, (i, some report) ∈ log → MayReport a files pairs i report

/-- The logs of the runs to the end are all that are possible. -/
theorem possible_iff {log : Log} : Possible a files pairs log ↔
    ∃ p, Run (start a files pairs before) log p ∧ p.Ended := by
  constructor
  · rintro ⟨hpositions, hreported⟩
    rw [← positions_start a files pairs before] at hpositions
    obtain ⟨p, hp, hdone⟩ := exists_run hpositions <| by
      intro i report hm c hc
      obtain ⟨pair, hpair, hyields⟩ := hreported i report hm
      obtain ⟨pair', hpair', rfl⟩ := mem_running_start.mp hc
      rw [hpair] at hpair'
      rwa [← Option.some.inj hpair']
    exact ⟨p, hp, ended_iff.mpr hdone⟩
  · rintro ⟨p, hrun, hended⟩
    obtain ⟨_, hpositions, _, hreported⟩ := hrun.invariant
    rw [ended_iff.mp hended] at hpositions
    exact ⟨hpositions, hreported⟩

/-! ## One after the other -/

/-- Whether some run of all assessments to its end gives these reports. -/
def Gives (a : Assessor Course) (files : Path → Option String) (pairs : List Pair)
    (before : Progress) (reports : List PairReport) : Prop :=
  ∃ log p, Run (start a files pairs before) log p ∧ p.Ended ∧
    ∀ late : List (Nat × Pair), late.Perm p.gathering.unfinished →
      p.gathering.close late = reports

/-- Outcomes of all pairs that their assessments may come to. -/
def Outcomes (a : Assessor Course) (files : Path → Option String) :
    List Pair → List (Option PairReport) → Prop :=
  List.Forall₂ fun pair outcome => ∀ report, outcome = some report →
    (a.assess pair (files pair.method.file)).Yields report

/-- When the assessments end in the order of their pairs, the reports are those of the outcomes. -/
theorem gives_zipWith {outcomes : List (Option PairReport)} (h : Outcomes a files pairs outcomes) :
    Gives a files pairs before
      (List.zipWith (fun pair outcome => outcome.getD (unfinished pair)) pairs outcomes) := by
  have hlength : outcomes.length = pairs.length := h.length_eq.symm
  have hpossible : Possible a files pairs (Log.inOrder outcomes) := by
    refine ⟨.of_eq (hlength ▸ Log.keys_inOrder outcomes), ?_⟩
    intro i report hm
    obtain ⟨ho, houtcome⟩ := List.getElem?_eq_some_iff.mp (Log.mem_inOrder.mp hm)
    have hp : i < pairs.length := hlength ▸ ho
    exact ⟨pairs[i], List.getElem?_eq_getElem hp, h.get hp ho report houtcome⟩
  obtain ⟨p, hrun, hended⟩ := possible_iff.mp hpossible
  refine ⟨_, p, hrun, hended, ?_⟩
  rw [hrun.invariant.gathering]
  exact fun late hlate => Log.close_inOrder hlength hlate

section Performed

variable {m : Type → Type} [Monad m] [LawfulMonad m] (b : Assessor (OptionT m))

private theorem exists_assess_noting (pair : Pair) (file : Option String) :
    ∃ noted : m { outcome : Option PairReport // ∀ report, outcome = some report →
        (b.asking.assess pair file).Yields report },
      (b.assess pair file).run = Subtype.val <$> noted := by
  rw [← b.perform_assess]
  exact Course.exists_perform_noting b.answer _

private theorem exists_mapM_noting (files : Path → Option String) (pairs : List Pair) :
    ∃ noted : m { outcomes : List (Option PairReport) // Outcomes b.asking files pairs outcomes },
      (pairs.mapM fun pair => (b.assess pair (files pair.method.file)).run) =
        Subtype.val <$> noted := by
  induction pairs with
  | nil => exact ⟨pure ⟨[], .nil⟩, by rw [List.mapM_nil, map_pure]⟩
  | cons pair rest ih =>
    obtain ⟨first, hfirst⟩ := exists_assess_noting b pair (files pair.method.file)
    obtain ⟨others, hothers⟩ := ih
    refine ⟨do
      let outcome ← first
      let outcomes ← others
      return ⟨outcome.1 :: outcomes.1, .cons outcome.2 outcomes.2⟩, ?_⟩
    rw [List.mapM_cons, hfirst, hothers]
    simp only [map_bind, bind_map_left, map_pure]

/-- The assessments that are made one after the other give the reports of some run of all. -/
theorem exists_assessAll_noting (files : Path → Option String) (pairs : List Pair)
    (before : Progress) :
    ∃ noted : m { reports : List PairReport // Gives b.asking files pairs before reports },
      b.assessAll files pairs = Subtype.val <$> noted := by
  obtain ⟨noted, hnoted⟩ := exists_mapM_noting b files pairs
  refine ⟨(fun outcomes => ⟨_, gives_zipWith outcomes.2⟩) <$> noted, ?_⟩
  rw [assessAll_eq, hnoted, bind_map_left, Functor.map_map]
  exact bind_pure_comp _ _

end Performed

/-- However the assessments are scheduled they come to an end, and every order of their ends and
every choice of those that break off does occur. At the end there is one report for each pair, at
the pair's position: the one that its assessment yielded, or that of an issue of the environment
when it broke off. Each end was counted once. The assessments that are made one after the other are
such a run, with the reports of their own outcomes in order. -/
theorem schedules_report_each_pair (a : Assessor Course) (files : Path → Option String)
    (pairs : List Pair) (before : Progress) :
    WellFounded Follows ∧
    (∀ log, Possible a files pairs log ↔
      ∃ p, Run (start a files pairs before) log p ∧ p.Ended) ∧
    (∀ log p, Run (start a files pairs before) log p → p.Ended →
      p.gathering.progress =
        { before.enterPhase .pairAnalysis with done := pairs.length, total := pairs.length } ∧
      ∀ late : List (Nat × Pair), late.Perm p.gathering.unfinished →
        (p.gathering.close late).length = pairs.length ∧
        ∀ i pair, pairs[i]? = some pair →
          (∃ report, log.lookup i = some (some report) ∧
            (a.assess pair (files pair.method.file)).Yields report ∧
            (p.gathering.close late)[i]? = some report) ∨
          (log.lookup i = some none ∧
            (p.gathering.close late)[i]? = some (unfinished pair))) ∧
    (∀ pair, (unfinished pair).kind = .environmentIssue ∧ (unfinished pair).confidence = 0.3) ∧
    ∀ (m : Type → Type) [Monad m] [LawfulMonad m] (b : Assessor (OptionT m)),
      (b.assessAll files pairs = do
        let outcomes ← pairs.mapM fun pair => (b.assess pair (files pair.method.file)).run
        return List.zipWith (fun pair outcome => outcome.getD (unfinished pair)) pairs outcomes) ∧
      ∃ noted : m { reports : List PairReport // Gives b.asking files pairs before reports },
        b.assessAll files pairs = Subtype.val <$> noted := by
  refine ⟨wellFounded_follows, fun log => possible_iff, ?_, fun pair => ⟨rfl, rfl⟩,
    fun m _ _ b => ⟨assessAll_eq b files pairs, exists_assessAll_noting b files pairs before⟩⟩
  intro log p hrun hended
  have hpossible : Possible a files pairs log := possible_iff.mpr ⟨p, hrun, hended⟩
  have hlength : log.length = pairs.length := by
    simpa using hpossible.positions.length_eq
  rw [hrun.invariant.gathering]
  refine ⟨by rw [Log.progress_gathered, hlength], ?_⟩
  intro late hlate
  rw [Log.close_gathered hpossible.positions hlate]
  refine ⟨by simp, ?_⟩
  intro i pair hpair
  have hreport : (pairs.zipIdx.map fun (pair, i) => log.reportOn i pair)[i]? =
      some (log.reportOn i pair) := by
    simp [hpair]
  have hi : i ∈ log.map Prod.fst :=
    hpossible.positions.mem_iff.mpr (List.mem_range.mpr (List.getElem?_eq_some_iff.mp hpair).1)
  obtain ⟨⟨j, outcome⟩, hm, rfl⟩ := List.mem_map.mp hi
  have hlookup : log.lookup j = some outcome :=
    Log.lookup_of_mem (hpossible.positions.nodup_iff.mpr List.nodup_range) hm
  rw [hreport, Log.reportOn, hlookup]
  cases outcome with
  | none => exact Or.inr ⟨rfl, rfl⟩
  | some report =>
    obtain ⟨pair', hpair', hyields⟩ := hpossible.reported j report hm
    obtain rfl := Option.some.inj (hpair.symm.trans hpair')
    exact Or.inl ⟨report, rfl, hyields, rfl⟩

end Pool

end Adjudicator
