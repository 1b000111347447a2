import Adjudicator.History.Archive
import Mathlib.Data.Finset.Card

/-!
# The newest commits of two files

An archive cuts the history of each file before the two are joined, and the joined list is cut
once more. Main statement: the first cut loses nothing. What is kept are the newest commits of the
two whole histories, each commit once, also when the files share commits and when dates are equal.
-/

namespace Adjudicator

/-- Of any two instants one is before the other, unless they are the same. -/
instance : LinearOrder Instant where
  le_refl a := by
    rw [Instant.le_iff]
    omega
  le_trans a b c hab hbc := by
    rw [Instant.le_iff] at hab hbc ⊢
    omega
  le_antisymm a b hab hba := by
    rw [Instant.le_iff] at hab hba
    rw [Instant.mk.injEq]
    omega
  le_total a b := by
    rw [Instant.le_iff, Instant.le_iff]
    omega
  lt_iff_le_not_ge a b := by
    rw [Instant.lt_iff, Instant.le_iff, Instant.le_iff]
    omega
  toDecidableLE := inferInstance
  toDecidableLT := inferInstance
  toDecidableEq := inferInstance

namespace Commit

/-- Commits in order, the newest first. -/
def Descending (commits : List Commit) : Prop :=
  commits.Pairwise fun a b => b.date ≤ a.date

/-- A whole history of one file: the newest commit first, no hash twice. -/
structure IsHistory (commits : List Commit) : Prop where
  /-- No commit is older than a later one of the list. -/
  descending : Descending commits
  /-- No hash stands twice. -/
  distinct : (commits.map hash).Nodup

/-- Commits among which a hash names one commit only. -/
def Identified (commits : List Commit) : Prop :=
  ∀ c ∈ commits, ∀ d ∈ commits, c.hash = d.hash → c = d

/-- What is kept of some commits when at most `limit` of the newest are wanted. -/
structure Newest (limit : Nat) (commits kept : List Commit) : Prop where
  /-- No hash stands twice. -/
  distinct : (kept.map hash).Nodup
  /-- The newest commit stands first. -/
  descending : Descending kept
  /-- As many commits are kept as are wanted, or all when there are fewer. -/
  length : kept.length = min limit commits.toFinset.card
  /-- Nothing is added. -/
  subset : kept ⊆ commits
  /-- What is left out is no newer than what is kept. -/
  left : ∀ c ∈ commits, c ∉ kept → ∀ k ∈ kept, c.date ≤ k.date

/-! ## Commits of one hash -/

section Distinct

/-- One more commit, unless its hash is known already. -/
private def addNew (known : List Commit) (c : Commit) : List Commit :=
  if known.any fun k => k.hash == c.hash then known else known ++ [c]

private theorem addNew_of_known {known : List Commit} {c : Commit}
    (h : ∃ k ∈ known, k.hash = c.hash) : addNew known c = known := by
  have h' : (known.any fun k => k.hash == c.hash) = true := by simpa using h
  rw [addNew, if_pos h']

private theorem addNew_of_unknown {known : List Commit} {c : Commit}
    (h : ¬∃ k ∈ known, k.hash = c.hash) : addNew known c = known ++ [c] := by
  have h' : ¬(known.any fun k => k.hash == c.hash) = true := by simpa using h
  rw [addNew, if_neg h']

/-- What is collected on top of known commits comes from both, keeps what is known, has every hash
of both and no hash twice. -/
private theorem foldl_addNew (commits known : List Commit) (h : (known.map hash).Nodup) :
    ((commits.foldl addNew known).map hash).Nodup ∧
      commits.foldl addNew known ⊆ known ++ commits ∧
      ∀ c ∈ known ++ commits, ∃ d ∈ commits.foldl addNew known, d.hash = c.hash := by
  induction commits generalizing known with
  | nil =>
    refine ⟨h, by simp, fun c hc => ⟨c, by simpa using hc, rfl⟩⟩
  | cons a rest ih =>
    rw [List.foldl_cons]
    by_cases hk : ∃ k ∈ known, k.hash = a.hash
    · rw [addNew_of_known hk]
      obtain ⟨hnodup, hsubset, hhash⟩ := ih known h
      refine ⟨hnodup, fun c hc => ?_, fun c hc => ?_⟩
      · have := hsubset hc
        simp only [List.mem_append, List.mem_cons] at this ⊢
        tauto
      · by_cases hca : c = a
        · obtain ⟨k, hmem, hkey⟩ := hk
          obtain ⟨d, hd, hdk⟩ := hhash k (List.mem_append_left _ hmem)
          exact ⟨d, hd, by rw [hdk, hkey, hca]⟩
        · refine hhash c ?_
          simp only [List.mem_append, List.mem_cons] at hc ⊢
          tauto
    · rw [addNew_of_unknown hk]
      have hnew : ((known ++ [a]).map hash).Nodup := by
        rw [List.map_append, List.nodup_append]
        refine ⟨h, by simp, ?_⟩
        rintro x hx y hy rfl
        obtain ⟨k, hmem, hkey⟩ := List.mem_map.mp hx
        have hy : x = a.hash := by simpa using hy
        exact hk ⟨k, hmem, hkey.trans hy⟩
      simpa [List.append_assoc] using ih (known ++ [a]) hnew

/-- No hash stands twice among the distinct commits. -/
theorem nodup_distinct (commits : List Commit) : ((distinct commits).map hash).Nodup :=
  (foldl_addNew commits [] List.nodup_nil).1

/-- The distinct commits are among the given ones. -/
theorem distinct_subset (commits : List Commit) : distinct commits ⊆ commits :=
  (foldl_addNew commits [] List.nodup_nil).2.1

/-- No hash is lost. -/
theorem exists_mem_distinct {commits : List Commit} {c : Commit} (h : c ∈ commits) :
    ∃ d ∈ distinct commits, d.hash = c.hash :=
  (foldl_addNew commits [] List.nodup_nil).2.2 c h

/-- Where a hash names one commit, no commit is lost. -/
theorem mem_distinct_iff {commits : List Commit} (h : Identified commits) {c : Commit} :
    c ∈ distinct commits ↔ c ∈ commits := by
  refine ⟨fun hc => distinct_subset commits hc, fun hc => ?_⟩
  obtain ⟨d, hd, hash⟩ := exists_mem_distinct hc
  rwa [h c hc d (distinct_subset commits hd) hash.symm]

end Distinct

/-! ## Commits in order -/

/-- Sorting keeps the commits. -/
theorem newestFirst_perm (commits : List Commit) : (newestFirst commits).Perm commits :=
  List.mergeSort_perm ..

/-- The newest commit stands first after sorting. -/
theorem descending_newestFirst (commits : List Commit) : Descending (newestFirst commits) := by
  have hle (a b : Commit) : (!(a.date < b.date : Bool)) = true ↔ b.date ≤ a.date := by
    rw [Bool.not_eq_true', decide_eq_false_iff_not, not_lt]
  have h : (newestFirst commits).Pairwise fun a b => (!(a.date < b.date : Bool)) = true := by
    refine List.pairwise_mergeSort (fun a b c hab hbc => ?_) (fun a b => ?_) commits
    · exact (hle a c).mpr (((hle b c).mp hbc).trans ((hle a b).mp hab))
    · rw [Bool.or_eq_true, hle, hle]
      exact le_total _ _
  exact h.imp fun hab => (hle _ _).mp hab

/-- Behind a cut of commits in order nothing is newer than before it. -/
theorem Descending.date_le {commits : List Commit} (h : Descending commits) {limit : Nat}
    {c k : Commit} (hc : c ∈ commits) (hleft : c ∉ commits.take limit)
    (hk : k ∈ commits.take limit) : c.date ≤ k.date := by
  have hdrop : c ∈ commits.drop limit := by
    rw [← List.take_append_drop limit commits, List.mem_append] at hc
    exact hc.resolve_left hleft
  rw [Descending, ← List.take_append_drop limit commits, List.pairwise_append] at h
  exact h.2.2 k hk c hdrop

/-! ## Cutting first loses nothing -/

section Cut

variable {history kept : List Commit} {limit : Nat}

/-- A history holds no commit twice. -/
theorem IsHistory.nodup (h : IsHistory history) : history.Nodup :=
  h.distinct.of_map

/-- What a history loses by its own cut is no newer than what is kept of a longer list that has the
rest of the history: otherwise all commits before the cut would be kept, and one more. -/
private theorem IsHistory.date_le_of_cut (h : IsHistory history) (hkept : Descending kept)
    (hsubset : history.take limit ⊆ kept) {c k : Commit} (hc : c ∈ history)
    (hleft : c ∉ history.take limit) (hk : k ∈ kept.take limit) : c.date ≤ k.date := by
  by_contra hnewer
  have hnewer : k.date < c.date := not_le.mp hnewer
  have hfull : (history.take limit).length = limit := by
    have hlt : limit < history.length := by
      by_contra hge
      exact hleft (by rwa [List.take_of_length_le (not_lt.mp hge)])
    exact List.length_take_of_le hlt.le
  have hbefore : history.take limit ⊆ (kept.take limit).erase k := by
    intro d hd
    have hcd : c.date ≤ d.date := h.descending.date_le hc hleft hd
    have hmem : d ∈ kept.take limit := by
      by_contra hout
      have hdk : d.date ≤ k.date := hkept.date_le (hsubset hd) hout hk
      exact absurd (hcd.trans hdk) hnewer.not_ge
    have hne : d ≠ k := by
      rintro rfl
      exact absurd hcd hnewer.not_ge
    exact (List.mem_erase_of_ne hne).mpr hmem
  have hle := (List.subperm_of_subset (h.nodup.sublist (List.take_sublist ..)) hbefore).length_le
  rw [hfull, List.length_erase_of_mem hk] at hle
  have hpos := List.length_pos_of_mem hk
  have hshort := List.length_take_le limit kept
  omega

/-- A history is whole when some commits without repetition have all that its cut leaves of it and
are fewer than the cut allows. -/
private theorem IsHistory.take_eq_self (h : IsHistory history)
    (hsubset : history.take limit ⊆ kept) (hshort : kept.length < limit) :
    history.take limit = history := by
  have hle := (List.subperm_of_subset (h.nodup.sublist (List.take_sublist ..)) hsubset).length_le
  rw [List.length_take] at hle
  exact List.take_of_length_le (by omega)

end Cut

/-- The newest commits of two histories can be found among the newest of each. -/
theorem newest_recent {test source : List Commit} (ht : IsHistory test) (hs : IsHistory source)
    (hi : Identified (test ++ source)) (limit : Nat) :
    Newest limit (test ++ source) (recent limit (test.take limit) (source.take limit)) := by
  have hcut : test.take limit ++ source.take limit ⊆ test ++ source :=
    ((List.take_sublist ..).append (List.take_sublist ..)).subset
  have hicut : Identified (test.take limit ++ source.take limit) :=
    fun c hc d hd => hi c (hcut hc) d (hcut hd)
  -- All commits of the two cut histories, in order; the last cut takes the first of them.
  obtain ⟨all, hall⟩ : ∃ all, all =
    newestFirst (distinct (test.take limit ++ source.take limit)) := ⟨_, rfl⟩
  have hmem (c : Commit) : c ∈ all ↔ c ∈ test.take limit ++ source.take limit := by
    rw [hall, (newestFirst_perm _).mem_iff, mem_distinct_iff hicut]
  have hdistinct : (all.map hash).Nodup := by
    rw [hall, ((newestFirst_perm _).map hash).nodup_iff]
    exact nodup_distinct _
  have hdescending : Descending all := hall ▸ descending_newestFirst _
  have htest : test.take limit ⊆ all := fun c hc => (hmem c).mpr (List.mem_append_left _ hc)
  have hsource : source.take limit ⊆ all := fun c hc => (hmem c).mpr (List.mem_append_right _ hc)
  have hsubset : all ⊆ test ++ source := fun c hc => hcut ((hmem c).mp hc)
  have hrecent : recent limit (test.take limit) (source.take limit) = all.take limit := by
    rw [recent, hall]
  rw [hrecent]
  refine ⟨hdistinct.sublist ((List.take_sublist ..).map hash),
    hdescending.sublist (List.take_sublist ..), ?_, fun c hc => hsubset (List.mem_of_mem_take hc),
    ?_⟩
  · -- The cut bites, or both histories are short and all of their commits are there.
    have hcard : all.toFinset.card = all.length := List.toFinset_card_of_nodup hdistinct.of_map
    rw [List.length_take]
    by_cases hshort : all.length < limit
    · have heq : all.toFinset = (test ++ source).toFinset := by
        ext c
        rw [List.mem_toFinset, List.mem_toFinset, hmem, ht.take_eq_self htest hshort,
          hs.take_eq_self hsource hshort]
      rw [← heq, hcard]
    · have hle : all.toFinset.card ≤ (test ++ source).toFinset.card :=
        Finset.card_le_card fun c hc =>
          List.mem_toFinset.mpr (hsubset (List.mem_toFinset.mp hc))
      omega
  · intro c hc hleft k hk
    by_cases hin : c ∈ all
    · exact hdescending.date_le hin hleft hk
    · have hnot := mt (hmem c).mpr hin
      rw [List.mem_append, not_or] at hnot
      rcases List.mem_append.mp hc with hct | hcs
      · exact ht.date_le_of_cut hdescending htest hct hnot.1 hk
      · exact hs.date_le_of_cut hdescending hsource hcs hnot.2 hk

end Commit

/-! ## Archives that serve histories -/

namespace Archive

open Commit

variable {m : Type → Type} [Monad m] [LawfulMonad m]

/-- An archive whose commits of a path are the first ones of a fixed history of that path. -/
structure Serves (a : Archive m) (history : Path → List Commit) : Prop where
  /-- Every path has a history. -/
  isHistory : ∀ p, IsHistory (history p)
  /-- As many commits as asked for are given, the newest ones. -/
  commits : ∀ p limit, a.commits p limit = pure ((history p).take limit)

/-- The history of a pair keeps exactly the newest commits of both files, and of each file the
newest. -/
theorem pairHistory_newest {a : Archive m} {history : Path → List Commit} (h : a.Serves history)
    {test source : Path} (hi : Identified (history test ++ history source))
    (firstLine lastLine limit : Nat) :
    ∃ found : PairHistory,
      a.pairHistory test source firstLine lastLine limit = (do
        let origins ← a.origins source firstLine lastLine
        return { found with origins }) ∧
      Newest limit (history test ++ history source) found.recent ∧
      (1 ≤ limit → found.test = (history test).head? ∧ found.source = (history source).head?) := by
  refine ⟨{ test := ((history test).take limit).head?
            source := ((history source).take limit).head?
            recent := recent limit ((history test).take limit) ((history source).take limit) },
    ?_, newest_recent (h.isHistory test) (h.isHistory source) hi limit, fun hlimit => ?_⟩
  · simp only [pairHistory, h.commits, pure_bind]
  · have hne : limit ≠ 0 := by omega
    simp only [List.head?_take, if_neg hne, and_self]

end Archive

/-! ## Known histories -/

namespace KnownHistory

open Commit

/-- The archive of known commits and origins. -/
def archive {m : Type → Type} [Monad m] (known : KnownHistory) : Archive m :=
  { commits := fun p limit => return known.commitsOf p limit
    origins := fun p first last => return known.originsOf p first last }

/-- All known commits of a path, the newest first. -/
def history (known : KnownHistory) (p : Path) : List Commit :=
  newestFirst ((known.commits.filter fun c => Path.same c.1 p).map Prod.snd)

/-- Known commits make an archive, as long as no path knows a hash twice. -/
theorem serves {m : Type → Type} [Monad m] (known : KnownHistory)
    (h : ∀ p, (((known.commits.filter fun c => Path.same c.1 p).map Prod.snd).map hash).Nodup) :
    (known.archive : Archive m).Serves known.history where
  isHistory p :=
    { descending := descending_newestFirst _
      distinct := ((newestFirst_perm _).map hash).nodup_iff.mpr (h p) }
  commits _ _ := rfl

/-- The history of a path holds known commits only. -/
theorem history_subset (known : KnownHistory) (p : Path) :
    known.history p ⊆ known.commits.map Prod.snd := by
  intro c hc
  have hmem := (newestFirst_perm _).mem_iff.mp hc
  exact List.map_subset _ (List.filter_subset_self _) hmem

/-- What holds of all known hashes holds of those of two paths. -/
theorem identified_history {known : KnownHistory}
    (h : Identified (known.commits.map Prod.snd)) (p q : Path) :
    Identified (known.history p ++ known.history q) := by
  have hsubset := List.append_subset.mpr ⟨known.history_subset p, known.history_subset q⟩
  exact fun c hc d hd => h c (hsubset hc) d (hsubset hd)

/-- A file and its test with a commit that changed both and two commits of one date. -/
def interleaved : KnownHistory :=
  { commits :=
      [("Calc.java", ⟨"a1", "feat: new rate", "Ada", ⟨300, 0⟩⟩),
        ("Calc.java", ⟨"a2", "refactor: round late", "Ada", ⟨200, 0⟩⟩),
        ("Calc.java", ⟨"c0", "chore: both files", "Bob", ⟨50, 0⟩⟩),
        ("CalcTest.java", ⟨"c0", "chore: both files", "Bob", ⟨50, 0⟩⟩),
        ("CalcTest.java", ⟨"b1", "test: cover rate", "Bob", ⟨200, 0⟩⟩)] }

private theorem nodup_interleaved (p : Path) :
    (((interleaved.commits.filter fun c => Path.same c.1 p).map Prod.snd).map hash).Nodup := by
  by_cases hs : Path.same "Calc.java" p = true
  · have ht : Path.same "CalcTest.java" p = false := by
      have hne : (Path.components "CalcTest.java" == Path.components "Calc.java") = false := by
        decide
      rw [Path.same, ← eq_of_beq hs, hne]
    simp [interleaved, hs, ht]
  · by_cases ht : Path.same "CalcTest.java" p = true
    · simp [interleaved, hs, ht]
    · simp [interleaved, hs, ht]

end KnownHistory

/-- The cut to two commits leaves out one of the date of a commit that is kept. -/
theorem Archive.pairHistory_newest_interleaved :
    (KnownHistory.interleaved.archive : Archive Id).Serves KnownHistory.interleaved.history ∧
      Commit.Identified (KnownHistory.interleaved.history "CalcTest.java" ++
        KnownHistory.interleaved.history "Calc.java") ∧
      ∃ found : PairHistory,
        (KnownHistory.interleaved.archive : Archive Id).pairHistory "CalcTest.java" "Calc.java"
            1 9 2 = (do
          let origins ← (KnownHistory.interleaved.archive : Archive Id).origins "Calc.java" 1 9
          return { found with origins }) ∧
        Commit.Newest 2 (KnownHistory.interleaved.history "CalcTest.java" ++
          KnownHistory.interleaved.history "Calc.java") found.recent ∧
        (1 ≤ 2 → found.test = (KnownHistory.interleaved.history "CalcTest.java").head? ∧
          found.source = (KnownHistory.interleaved.history "Calc.java").head?) := by
  have hserves : (KnownHistory.interleaved.archive : Archive Id).Serves
      KnownHistory.interleaved.history :=
    KnownHistory.serves _ KnownHistory.nodup_interleaved
  have hidentified : Commit.Identified (KnownHistory.interleaved.history "CalcTest.java" ++
      KnownHistory.interleaved.history "Calc.java") := by
    refine KnownHistory.identified_history ?_ _ _
    unfold Commit.Identified
    decide
  exact ⟨hserves, hidentified, pairHistory_newest hserves hidentified 1 9 2⟩

end Adjudicator
