import Adjudicator.Report.Assessment
import Mathlib.Data.List.Nodup
import Mathlib.Data.List.Perm.Basic

/-!
# Gathering reports

A log says for every assessment, in the order in which they ended, whether it had a report. Main
statements: when each pair has one entry in the log, the gathered reports are those of the pairs in
order, each that of the pair's own entry or the one that stands in for it; and so are the reports of
assessments that are made one after the other.
-/

namespace Adjudicator

open Assessor

/-- The outcomes of assessments with the positions of their pairs, in the order of their ends. -/
abbrev Log :=
  List (Nat × Option PairReport)

namespace Log

/-- The notice that an entry of a log gives. -/
def ending (entry : Nat × Option PairReport) : Ending :=
  match entry with
  | (i, some report) => .finished i report
  | (_, none) => .broken

/-- The report of the pair at a position, or the one that stands in for it. -/
def reportOn (log : Log) (position : Nat) (pair : Pair) : PairReport :=
  (log.lookup position).join.getD (unfinished pair)

/-- What is known after the endings of a log. -/
def gathered (pairs : List Pair) (before : Progress) (log : Log) : Gathering :=
  (log.map ending).foldl Gathering.join (.start pairs before)

/-- A further ending is joined to what is known. -/
theorem gathered_concat (pairs : List Pair) (before : Progress) (log : Log)
    (entry : Nat × Option PairReport) :
    gathered pairs before (log ++ [entry]) = (gathered pairs before log).join (ending entry) := by
  simp only [gathered, List.map_append, List.map_cons, List.map_nil, List.foldl_append,
    List.foldl_cons, List.foldl_nil]

/-- Where each position has at most one entry, any entry of a position is found for it. -/
theorem lookup_of_mem {log : Log} (h : (log.map Prod.fst).Nodup) {i : Nat}
    {outcome : Option PairReport} (hm : (i, outcome) ∈ log) : log.lookup i = some outcome := by
  induction log with
  | nil => cases hm
  | cons entry rest ih =>
    obtain ⟨j, o⟩ := entry
    obtain ⟨hne, hrest⟩ := List.nodup_cons.mp h
    rcases List.mem_cons.mp hm with he | ht
    · cases he
      exact List.lookup_cons_self
    · have hb : (i == j) = false := by
        apply beq_eq_false_iff_ne.mpr
        rintro rfl
        exact hne (List.mem_map.mpr ⟨_, ht, rfl⟩)
      simp only [List.lookup_cons, hb, ih hrest ht]

private theorem mem_of_lookup {log : Log} {i : Nat} {outcome : Option PairReport}
    (h : log.lookup i = some outcome) : (i, outcome) ∈ log := by
  obtain ⟨first, rest, rfl, _⟩ := List.lookup_eq_some_iff.mp h
  simp

/-- What is known after the endings of a log, from what was known before. -/
private theorem foldl_join (log : Log) (g : Gathering) :
    (log.map ending).foldl Gathering.join g =
      { unfinished := g.unfinished.filter fun late =>
          log.all fun entry => late.1 != entry.1 || entry.2.isNone
        reports := g.reports ++ log.filterMap fun entry => entry.2.map (entry.1, ·)
        progress := { g.progress with done := g.progress.done + log.length } } := by
  induction log generalizing g with
  | nil => simp
  | cons entry rest ih =>
    obtain ⟨i, _ | report⟩ := entry <;>
      simp [ending, Gathering.join, ih, Progress.finishOne, List.filter_filter, Bool.and_comm,
        Nat.add_comm, Nat.add_left_comm]

variable {pairs : List Pair} {before : Progress} {log : Log}

/-- Each ending is counted once. -/
theorem progress_gathered :
    (gathered pairs before log).progress =
      { before.enterPhase .pairAnalysis with done := log.length, total := pairs.length } := by
  simp [gathered, foldl_join, Gathering.start, Progress.start]

/-- The gathered reports are those of the log. -/
theorem mem_reports_gathered {i : Nat} {report : PairReport} :
    (i, report) ∈ (gathered pairs before log).reports ↔ (i, some report) ∈ log := by
  simp [gathered, foldl_join, Gathering.start]

/-- The pairs that remain are those without a report in the log. -/
theorem mem_unfinished_gathered {i : Nat} {pair : Pair} :
    (i, pair) ∈ (gathered pairs before log).unfinished ↔
      pairs[i]? = some pair ∧ ∀ report, (i, some report) ∉ log := by
  have hstart : (i, pair) ∈ (Gathering.start pairs before).unfinished ↔ pairs[i]? = some pair := by
    simp [Gathering.start, List.mem_zipIdx_iff_getElem?]
  simp only [gathered, foldl_join, List.mem_filter, hstart, List.all_eq_true]
  apply and_congr_right
  intro _
  constructor
  · intro h report hm
    simpa using h _ hm
  · rintro h ⟨j, _ | report⟩ hm
    · simp
    · have hne : i ≠ j := by
        rintro rfl
        exact h report hm
      simp [hne]

private theorem keys_start (pairs : List Pair) (before : Progress) :
    (Gathering.start pairs before).unfinished.map Prod.fst = List.range pairs.length := by
  rw [Gathering.start, List.map_map, List.range_eq_range']
  exact List.zipIdx_map_snd 0 pairs

private theorem nodup_keys_reports (h : (log.map Prod.fst).Nodup) :
    ((gathered pairs before log).reports.map Prod.fst).Nodup := by
  have hkeys : (gathered pairs before log).reports.map Prod.fst =
      (log.filter fun entry => entry.2.isSome).map Prod.fst := by
    simp only [gathered, foldl_join, Gathering.start, List.nil_append]
    clear h
    induction log with
    | nil => rfl
    | cons entry rest ih => obtain ⟨i, _ | report⟩ := entry <;> simp [ih]
  rw [hkeys]
  exact h.sublist (List.filter_sublist.map _)

private theorem nodup_keys_unfinished :
    ((gathered pairs before log).unfinished.map Prod.fst).Nodup := by
  have hsub : ((gathered pairs before log).unfinished.map Prod.fst).Sublist
      (List.range pairs.length) := by
    rw [← keys_start pairs before, gathered, foldl_join]
    exact List.filter_sublist.map _
  exact List.nodup_range.sublist hsub

/-- The reports of the pairs under the positions of the pairs. -/
private def keyed (pairs : List Pair) (log : Log) : List (Nat × PairReport) :=
  pairs.zipIdx.map fun (pair, i) => (i, log.reportOn i pair)

private theorem mem_keyed {i : Nat} {report : PairReport} :
    (i, report) ∈ keyed pairs log ↔ ∃ pair, pairs[i]? = some pair ∧ log.reportOn i pair = report := by
  simp [keyed, List.mem_zipIdx_iff_getElem?]

private theorem keys_keyed : (keyed pairs log).map Prod.fst = List.range pairs.length := by
  rw [keyed, List.map_map, List.range_eq_range']
  exact List.zipIdx_map_snd 0 pairs

section Closing

variable (hlog : (log.map Prod.fst).Perm (List.range pairs.length)) {late : List (Nat × Pair)}
  (hlate : late.Perm (gathered pairs before log).unfinished)
include hlog hlate

/-- Each position has a report or is that of a remaining pair, and not both. -/
private theorem nodup_keys_late :
    (((gathered pairs before log).reports ++
      late.map fun entry => (entry.1, unfinished entry.2)).map Prod.fst).Nodup := by
  have hkeys : ((gathered pairs before log).reports ++
      late.map fun entry => (entry.1, unfinished entry.2)).map Prod.fst =
      (gathered pairs before log).reports.map Prod.fst ++ late.map Prod.fst := by
    rw [List.map_append, List.map_map]
    rfl
  rw [hkeys]
  apply List.nodup_append'.mpr
  refine ⟨nodup_keys_reports (hlog.nodup_iff.mpr List.nodup_range),
    (hlate.map Prod.fst).nodup_iff.mpr nodup_keys_unfinished, ?_⟩
  intro i hreport hremains
  obtain ⟨⟨i, report⟩, hm, rfl⟩ := List.mem_map.mp hreport
  obtain ⟨⟨j, pair⟩, hj, rfl⟩ := List.mem_map.mp hremains
  have hnone := (mem_unfinished_gathered.mp (hlate.mem_iff.mp hj)).2
  exact hnone report (mem_reports_gathered.mp hm)

/-- A report is gathered, or stands in for a remaining pair, exactly when it is that of its pair. -/
private theorem mem_late_iff {i : Nat} {report : PairReport} :
    (i, report) ∈ (gathered pairs before log).reports ++
        late.map (fun entry => (entry.1, unfinished entry.2)) ↔
      (i, report) ∈ keyed pairs log := by
  have hnodup : (log.map Prod.fst).Nodup := hlog.nodup_iff.mpr List.nodup_range
  have hmem (i : Nat) (pair : Pair) :
      (i, pair) ∈ late ↔ pairs[i]? = some pair ∧ ∀ report, (i, some report) ∉ log :=
    hlate.mem_iff.trans mem_unfinished_gathered
  simp only [List.mem_append, mem_reports_gathered, List.mem_map, Prod.exists, Prod.mk.injEq,
    mem_keyed, hmem]
  constructor
  · rintro (hm | ⟨j, pair, ⟨hj, hnone⟩, rfl, rfl⟩)
    · have hi : i < pairs.length := by
        have hk : i ∈ log.map Prod.fst := List.mem_map.mpr ⟨_, hm, rfl⟩
        exact List.mem_range.mp (hlog.mem_iff.mp hk)
      refine ⟨pairs[i], List.getElem?_eq_getElem hi, ?_⟩
      simp [reportOn, lookup_of_mem hnodup hm]
    · refine ⟨pair, hj, ?_⟩
      cases ho : (log.lookup j).join with
      | none => simp [reportOn, ho]
      | some report =>
        exact absurd (mem_of_lookup (Option.join_eq_some_iff.mp ho)) (hnone report)
  · rintro ⟨pair, hp, rfl⟩
    cases ho : (log.lookup i).join with
    | none =>
      refine Or.inr ⟨i, pair, ⟨hp, fun report hm => ?_⟩, rfl, by simp [reportOn, ho]⟩
      simp [lookup_of_mem hnodup hm] at ho
    | some report =>
      refine Or.inl ?_
      simp only [reportOn, ho, Option.getD_some]
      exact mem_of_lookup (Option.join_eq_some_iff.mp ho)

/-- With the stand-ins of the remaining pairs, in whatever order, the gathered reports are those of
all pairs. -/
private theorem perm_keyed :
    ((gathered pairs before log).reports ++
      late.map fun entry => (entry.1, unfinished entry.2)).Perm (keyed pairs log) := by
  have hkeyed : (keyed pairs log).Nodup := by
    apply List.Nodup.of_map (f := Prod.fst)
    rw [keys_keyed]
    exact List.nodup_range
  apply (List.perm_ext_iff_of_nodup (nodup_keys_late hlog hlate).of_map hkeyed).mpr
  rintro ⟨i, report⟩
  exact mem_late_iff hlog hlate

end Closing

/-- Once each pair has an entry in the log, closing gives the pairs' reports in order. -/
theorem close_gathered (hlog : (log.map Prod.fst).Perm (List.range pairs.length))
    {late : List (Nat × Pair)} (hlate : late.Perm (gathered pairs before log).unfinished) :
    (gathered pairs before log).close late =
      pairs.zipIdx.map fun (pair, i) => log.reportOn i pair := by
  let all := (gathered pairs before log).reports ++
    late.map fun entry => (entry.1, unfinished entry.2)
  have hperm : (all.mergeSort fun a b => a.1 ≤ b.1).Perm (keyed pairs log) :=
    (List.mergeSort_perm _ _).trans (perm_keyed hlog hlate)
  have hmerged : (all.mergeSort fun a b => a.1 ≤ b.1).Pairwise fun a b => a.1 ≤ b.1 := by
    refine (List.pairwise_mergeSort ?_ ?_ all).imp of_decide_eq_true
    · intro a b c hab hbc
      exact decide_eq_true (Nat.le_trans (of_decide_eq_true hab) (of_decide_eq_true hbc))
    · intro a b
      simpa using Nat.le_total a.1 b.1
  have hkeyed : (keyed pairs log).Pairwise fun a b => a.1 ≤ b.1 := by
    rw [← List.pairwise_map (f := Prod.fst), keys_keyed]
    exact List.pairwise_lt_range.imp Nat.le_of_lt
  have hsorted : (all.mergeSort fun a b => a.1 ≤ b.1) = keyed pairs log := by
    refine List.Perm.eq_of_pairwise ?_ hmerged hkeyed hperm
    rintro ⟨i, report⟩ ⟨j, report'⟩ hi hj hij hji
    obtain rfl : i = j := Nat.le_antisymm hij hji
    obtain ⟨pair, hp, rfl⟩ := mem_keyed.mp (hperm.mem_iff.mp hi)
    obtain ⟨pair', hp', rfl⟩ := mem_keyed.mp hj
    rw [hp] at hp'
    rw [Option.some.inj hp']
  calc (gathered pairs before log).close late
      = (all.mergeSort fun a b => a.1 ≤ b.1).map Prod.snd := rfl
    _ = (keyed pairs log).map Prod.snd := by rw [hsorted]
    _ = pairs.zipIdx.map fun (pair, i) => log.reportOn i pair := List.map_map

/-- The log of assessments that end in the order of their pairs. -/
def inOrder (outcomes : List (Option PairReport)) : Log :=
  outcomes.zipIdx.map Prod.swap

/-- Each position occurs once, in order. -/
theorem keys_inOrder (outcomes : List (Option PairReport)) :
    (inOrder outcomes).map Prod.fst = List.range outcomes.length := by
  rw [inOrder, List.map_map, List.range_eq_range']
  exact List.zipIdx_map_snd 0 outcomes

/-- An outcome stands at its own position. -/
theorem mem_inOrder {outcomes : List (Option PairReport)} {i : Nat}
    {outcome : Option PairReport} :
    (i, outcome) ∈ inOrder outcomes ↔ outcomes[i]? = some outcome := by
  simp [inOrder, List.mem_zipIdx_iff_getElem?]

/-- When the assessments end in the order of their pairs, closing gives each pair its own outcome,
or the report that stands in for it. -/
theorem close_inOrder {outcomes : List (Option PairReport)} (h : outcomes.length = pairs.length)
    {late : List (Nat × Pair)}
    (hlate : late.Perm (gathered pairs before (inOrder outcomes)).unfinished) :
    (gathered pairs before (inOrder outcomes)).close late =
      List.zipWith (fun pair outcome => outcome.getD (Assessor.unfinished pair)) pairs outcomes := by
  have hkeys := keys_inOrder outcomes
  rw [close_gathered (.of_eq (h ▸ hkeys)) hlate]
  apply List.ext_getElem (by simp [h])
  intro i hi _
  have ho : i < outcomes.length := by
    simpa [h] using hi
  have hlookup : (inOrder outcomes).lookup i = some outcomes[i] :=
    lookup_of_mem (hkeys ▸ List.nodup_range) (mem_inOrder.mpr (List.getElem?_eq_getElem ho))
  simp [reportOn, hlookup]

end Log

section OneByOne

variable {m : Type → Type} [Monad m] [LawfulMonad m]

/-- What follows on actions for the members of a list only has to be known for lists of results of
the same length. -/
private theorem mapM_bind_congr {α β γ : Type} (f : α → m β) (l : List α) {g g' : List β → m γ}
    (h : ∀ results : List β, results.length = l.length → g results = g' results) :
    l.mapM f >>= g = l.mapM f >>= g' := by
  induction l generalizing g g' with
  | nil => simpa using h [] rfl
  | cons x rest ih =>
    simp only [List.mapM_cons, bind_assoc, pure_bind]
    congr 1
    funext result
    apply ih
    intro results hlength
    exact h (result :: results) (congrArg Nat.succ hlength)

omit [LawfulMonad m] in
private theorem attempt_eq (a : Assessor (OptionT m)) (files : Path → Option String) (i : Nat)
    (pair : Pair) : a.attempt files i pair = do
      let outcome ← (a.assess pair (files pair.method.file)).run
      return Log.ending (i, outcome) := by
  rw [attempt]
  congr 1
  funext outcome
  cases outcome <;> rfl

private theorem mapM_attempt (a : Assessor (OptionT m)) (files : Path → Option String)
    (pairs : List Pair) (k : Nat) :
    ((pairs.zipIdx k).mapM fun (pair, i) => a.attempt files i pair) = do
      let outcomes ← pairs.mapM fun pair => (a.assess pair (files pair.method.file)).run
      return (outcomes.zipIdx k).map fun (outcome, i) => Log.ending (i, outcome) := by
  induction pairs generalizing k with
  | nil => simp
  | cons pair rest ih =>
    rw [List.zipIdx_cons, List.mapM_cons, ih]
    simp only [attempt_eq, List.mapM_cons, bind_assoc, pure_bind, List.zipIdx_cons, List.map_cons]

/-- One after the other, the assessments of pairs give their own reports in order, and the report
of an unfinished assessment for each that breaks off. -/
theorem assessAll_eq (a : Assessor (OptionT m)) (files : Path → Option String)
    (pairs : List Pair) : a.assessAll files pairs = do
      let outcomes ← pairs.mapM fun pair => (a.assess pair (files pair.method.file)).run
      return List.zipWith (fun pair outcome => outcome.getD (unfinished pair)) pairs outcomes := by
  simp only [assessAll, mapM_attempt, bind_assoc, pure_bind]
  apply mapM_bind_congr
  intro outcomes hlength
  congr 1
  have hendings : (outcomes.zipIdx.map fun (outcome, i) => Log.ending (i, outcome)) =
      (Log.inOrder outcomes).map Log.ending := by
    rw [Log.inOrder, List.map_map]
    rfl
  rw [hendings]
  exact Log.close_inOrder hlength (.refl _)

end OneByOne

end Adjudicator
