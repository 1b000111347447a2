import Adjudicator.Mutation.Report
import Mathlib.Data.List.Destutter
import Mathlib.Data.List.Sort

/-!
# Weak spots

The mutations that no assertion would notice are gathered by their lines. Main statement: there is
one weak spot for each line with such a mutation, in the order of the lines, with exactly the kinds
of these mutations and the code of the first of them; so a report without weak spots is one whose
mutations are all caught.
-/

namespace Adjudicator.Mutation

variable {outcomes missed : List MutationOutcome} {line : Nat} {w : WeakSpot}

/-! ## Lines and kinds -/

private theorem eraseRepsBy_loop (a : Nat) (xs acc : List Nat) :
    List.eraseRepsBy.loop (· == ·) a xs acc = acc.reverse ++ xs.destutter' (· ≠ ·) a := by
  induction xs generalizing a acc with
  | nil => simp only [List.eraseRepsBy.loop, List.reverse_cons, List.destutter'_nil]
  | cons b xs ih =>
    rw [List.eraseRepsBy.loop, List.destutter'_cons]
    by_cases hab : a = b
    · obtain rfl := hab
      simp only [beq_self_eq_true, ih, ne_eq, not_true_eq_false, if_false]
    · have hbeq : (a == b) = false := beq_eq_false_iff_ne.mpr hab
      simp only [hbeq, ih, ne_eq, hab, not_false_eq_true, if_true, List.reverse_cons,
        List.append_assoc, List.singleton_append]

/-- In a sorted list equal lines are neighbours, so each is left once. -/
private theorem linesOf_eq_dedup (outcomes : List MutationOutcome) :
    linesOf outcomes = ((outcomes.map fun o => o.mutation.line).mergeSort (· ≤ ·)).dedup := by
  have heraseReps : ∀ xs : List Nat, xs.eraseReps = xs.destutter (· ≠ ·) := by
    rintro (_ | ⟨a, xs⟩)
    · rfl
    · exact eraseRepsBy_loop a xs []
  rw [linesOf, heraseReps]
  exact (List.pairwise_mergeSort' (· ≤ ·) _).destutter_eq_dedup

/-- The lines of outcomes are those of their mutations. -/
theorem mem_linesOf : line ∈ linesOf outcomes ↔ ∃ o ∈ outcomes, o.mutation.line = line := by
  rw [linesOf_eq_dedup, List.mem_dedup, List.mem_mergeSort, List.mem_map]

/-- Lines are listed from the smallest, each once. -/
theorem pairwise_linesOf (outcomes : List MutationOutcome) :
    (linesOf outcomes).Pairwise (· < ·) := by
  rw [linesOf_eq_dedup]
  have hsorted := (List.pairwise_mergeSort' (· ≤ ·)
    (outcomes.map fun o => o.mutation.line)).sublist (List.dedup_sublist _)
  exact (hsorted.and (List.nodup_dedup _)).imp fun h => Nat.lt_of_le_of_ne h.1 h.2

/-- The kinds of outcomes are those of their mutations. -/
theorem mem_kindsOf {k : MutationKind} :
    k ∈ kindsOf outcomes ↔ ∃ o ∈ outcomes, o.mutation.kind = k := by
  have hall : k ∈ MutationKind.all := by
    cases k <;> decide
  simp only [kindsOf, List.mem_filter, hall, true_and, List.any_eq_true, beq_iff_eq]

/-! ## One line -/

/-- The weak spot of a line is read off the outcomes of the line that were missed. -/
private theorem of_weakSpot?_eq_some (h : weakSpot? missed line = some w) :
    w.line = line ∧ w.severity = severity w.kinds ∧
      w.kinds = kindsOf (missed.filter fun o => o.mutation.line == line) ∧
      ∃ o, missed.find? (fun o => o.mutation.line == line) = some o ∧ w.code = o.mutation.code := by
  rw [weakSpot?] at h
  obtain ⟨first, hfirst, h⟩ := Option.bind_eq_some_iff.mp h
  obtain ⟨kind, _, h⟩ := Option.bind_eq_some_iff.mp h
  obtain rfl := Option.some.inj h
  rw [List.head?_filter] at hfirst
  exact ⟨rfl, rfl, rfl, first, hfirst, rfl⟩

private theorem isSome_weakSpot? {o : MutationOutcome} (ho : o ∈ missed) :
    (weakSpot? missed o.mutation.line).isSome = true := by
  let here := missed.filter fun o' => o'.mutation.line == o.mutation.line
  have hmem : o ∈ here := List.mem_filter.mpr ⟨ho, beq_self_eq_true _⟩
  have hkind : o.mutation.kind ∈ kindsOf here := mem_kindsOf.mpr ⟨o, hmem, rfl⟩
  obtain ⟨first, rest, hhere⟩ := List.exists_cons_of_ne_nil (List.ne_nil_of_mem hmem)
  obtain ⟨kind, kinds, hkinds⟩ := List.exists_cons_of_ne_nil (List.ne_nil_of_mem hkind)
  have hfirst : here.head? = some first := by rw [hhere, List.head?_cons]
  have hhead : (kindsOf here).head? = some kind := by rw [hkinds, List.head?_cons]
  rw [weakSpot?]
  simp only [bind, Option.bind, here, hfirst, hhead, Option.isSome_some]

/-! ## All lines -/

/-- There is a weak spot for each line with a mutation that was missed, in the order of lines. -/
theorem map_line_weakSpots (outcomes : List MutationOutcome) :
    (weakSpots outcomes).map WeakSpot.line = linesOf (outcomes.filter fun o => !o.caught) := by
  rw [weakSpots, List.map_filterMap]
  refine (List.filterMap_congr fun line hline => ?_).trans List.filterMap_some
  obtain ⟨o, ho, rfl⟩ := mem_linesOf.mp hline
  obtain ⟨w, hw⟩ := Option.isSome_iff_exists.mp (isSome_weakSpot? ho)
  rw [hw, Option.map_some, (of_weakSpot?_eq_some hw).1]

/-- The lines with weak spots are those with mutations that were missed. -/
theorem exists_mem_weakSpots_iff :
    (∃ w ∈ weakSpots outcomes, w.line = line) ↔
      ∃ o ∈ outcomes.filter fun o => !o.caught, o.mutation.line = line := by
  rw [← List.mem_map, map_line_weakSpots, mem_linesOf]

/-- The kinds of a weak spot are those of the mutations of its line that were missed. -/
theorem mem_kinds_of_mem_weakSpots (h : w ∈ weakSpots outcomes) {k : MutationKind} :
    k ∈ w.kinds ↔ ∃ o ∈ outcomes.filter fun o => !o.caught,
      o.mutation.line = w.line ∧ o.mutation.kind = k := by
  obtain ⟨line, _, h⟩ := List.mem_filterMap.mp h
  obtain ⟨hline, _, hkinds, _⟩ := of_weakSpot?_eq_some h
  rw [hkinds, mem_kindsOf, hline]
  simp only [List.mem_filter, beq_iff_eq, and_assoc]

/-- The kinds of a weak spot are listed in the order of kinds, each once. -/
theorem kinds_sublist_of_mem_weakSpots (h : w ∈ weakSpots outcomes) :
    w.kinds.Sublist MutationKind.all := by
  obtain ⟨line, _, h⟩ := List.mem_filterMap.mp h
  rw [(of_weakSpot?_eq_some h).2.2.1]
  exact List.filter_sublist

/-- The severity of a weak spot is that of its kinds. -/
theorem severity_of_mem_weakSpots (h : w ∈ weakSpots outcomes) :
    w.severity = severity w.kinds := by
  obtain ⟨line, _, h⟩ := List.mem_filterMap.mp h
  exact (of_weakSpot?_eq_some h).2.1

/-- The code of a weak spot is that of the first mutation of its line that was missed. -/
theorem exists_code_of_mem_weakSpots (h : w ∈ weakSpots outcomes) :
    ∃ o, (outcomes.filter fun o => !o.caught).find? (fun o => o.mutation.line == w.line) = some o ∧
      w.code = o.mutation.code := by
  obtain ⟨line, _, h⟩ := List.mem_filterMap.mp h
  obtain ⟨hline, _, _, hcode⟩ := of_weakSpot?_eq_some h
  rw [hline]
  exact hcode

/-- How severe kinds are goes by whether numbers and results are among them. -/
theorem severity_eq (kinds : List MutationKind) :
    severity kinds =
      if .number ∈ kinds ∧ .result ∈ kinds then .high
      else if .number ∈ kinds ∨ .result ∈ kinds then .medium
      else .low := by
  simp only [severity, ← List.contains_iff_mem]
  cases kinds.contains .number <;> cases kinds.contains .result <;> rfl

/-! ## Reports -/

/-- What is not caught is missed. -/
theorem caught_add_missed (r : MutationReport) :
    r.caught + (r.outcomes.filter fun o => !o.caught).length = r.total := by
  rw [MutationReport.caught, MutationReport.total, ← List.length_append]
  exact (List.filter_append_perm _ _).length_eq

/-- There is no weak spot exactly when every mutation is caught. -/
theorem weakSpots_eq_nil_iff :
    weakSpots outcomes = [] ↔ outcomes.filter (fun o => !o.caught) = [] := by
  rw [← List.map_eq_nil_iff (f := WeakSpot.line), map_line_weakSpots]
  constructor
  · intro h
    refine List.eq_nil_iff_forall_not_mem.mpr fun o ho => ?_
    exact List.not_mem_nil (h ▸ mem_linesOf.mpr ⟨o, ho, rfl⟩)
  · intro h
    refine List.eq_nil_iff_forall_not_mem.mpr fun line hline => ?_
    obtain ⟨o, ho, _⟩ := mem_linesOf.mp hline
    exact List.not_mem_nil (h ▸ ho)

/-- The weak spots of a report are those of its outcomes. -/
theorem weakSpots_report (pair : Pair) (file : Option (List Char)) :
    (report pair file).weakSpots = weakSpots (report pair file).outcomes := by
  unfold report
  dsimp only
  split
  · split <;> rfl
  · rfl

/-- Of the outcomes in any order there is one weak spot for each line with a mutation that was
missed, by increasing lines: its kinds are those of the missed mutations of the line, each once and
in the order of kinds, its severity goes by these kinds, and its code is that of the first missed
mutation of the line. So in every report of a pair the caught mutations and the missed ones are all
of them, and there is no weak spot exactly when all are caught. -/
theorem weak_spots_of_missed :
    (∀ outcomes : List MutationOutcome,
      let missed := outcomes.filter fun o => !o.caught
      ((weakSpots outcomes).map WeakSpot.line).Pairwise (· < ·) ∧
      (∀ line, (∃ w ∈ weakSpots outcomes, w.line = line) ↔
        ∃ o ∈ missed, o.mutation.line = line) ∧
      ∀ w ∈ weakSpots outcomes,
        (∀ k, k ∈ w.kinds ↔ ∃ o ∈ missed, o.mutation.line = w.line ∧ o.mutation.kind = k) ∧
        w.kinds.Sublist MutationKind.all ∧
        w.severity =
          (if .number ∈ w.kinds ∧ .result ∈ w.kinds then .high
          else if .number ∈ w.kinds ∨ .result ∈ w.kinds then .medium
          else .low) ∧
        ∃ o, missed.find? (fun o => o.mutation.line == w.line) = some o ∧
          w.code = o.mutation.code) ∧
    ∀ (pair : Pair) (file : Option (List Char)),
      let r := report pair file
      r.caught ≤ r.total ∧
      r.caught + (r.outcomes.filter fun o => !o.caught).length = r.total ∧
      (r.weakSpots = [] ↔ r.caught = r.total) := by
  constructor
  · intro outcomes
    refine ⟨?_, fun line => exists_mem_weakSpots_iff, fun w hw => ⟨fun k => ?_, ?_, ?_, ?_⟩⟩
    · rw [map_line_weakSpots]
      exact pairwise_linesOf _
    · exact mem_kinds_of_mem_weakSpots hw
    · exact kinds_sublist_of_mem_weakSpots hw
    · rw [severity_of_mem_weakSpots hw, severity_eq]
    · exact exists_code_of_mem_weakSpots hw
  · intro pair file r
    have htotal := caught_add_missed r
    have hnone : r.weakSpots = [] ↔ (r.outcomes.filter fun o => !o.caught).length = 0 := by
      rw [weakSpots_report, weakSpots_eq_nil_iff, List.length_eq_zero_iff]
    refine ⟨Nat.le.intro htotal, htotal, hnone.trans ?_⟩
    omega

end Adjudicator.Mutation
