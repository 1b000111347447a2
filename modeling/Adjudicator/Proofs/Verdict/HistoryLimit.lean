import Adjudicator.Proofs.Divergence.Explained
import Adjudicator.Proofs.Verdict.Classification
import Adjudicator.Report.Assessment
import Adjudicator.Settings.Basic

/-!
# The limit of histories

How many commits are looked up for a file is a setting. A verdict reads no more than the newest
commit of each file. Main statement: all limits from one on lead to the same decision. The limit
zero is a setting like any other, and under it the decision is the one for files that were never
committed.
-/

namespace Adjudicator

namespace Archive

variable {m : Type → Type} [Monad m] {a : Archive m} {history : Path → List Commit}

/-- An archive that gives the first commits of a fixed list of each path. -/
def Cuts (a : Archive m) (history : Path → List Commit) : Prop :=
  ∀ p limit, a.commits p limit = pure ((history p).take limit)

/-- Any limit from one on looks up the newest commit of each file, and the limit zero none. -/
theorem Cuts.pairHistory_eq [LawfulMonad m] (h : a.Cuts history) (test source : Path)
    (firstLine lastLine limit : Nat) :
    a.pairHistory test source firstLine lastLine limit = (do
      let origins ← a.origins source firstLine lastLine
      return { test := if limit = 0 then none else (history test).head?
               source := if limit = 0 then none else (history source).head?
               recent :=
                 Commit.recent limit ((history test).take limit) ((history source).take limit)
               origins }) := by
  have htest := h test limit
  have hsource := h source limit
  simp only [pairHistory, htest, hsource, pure_bind, List.head?_take]

end Archive

namespace Verdict

/-- What a verdict decides, apart from the words in which it is given. -/
structure Decision where
  /-- Kind. -/
  kind : VerdictKind
  /-- Whether the last change of the code looks like an accident. -/
  regression : Bool
  /-- How sure the verdict is. -/
  confidence : Float
  /-- What to do. -/
  recommendation : Recommendation

/-- The decision of a verdict. -/
def decision (v : Verdict) : Decision :=
  ⟨v.kind, v.regression, v.confidence, v.recommendation⟩

/-- Only the newest commits of the two files enter the decision. -/
theorem decision_classify_congr (x : Analysis) {h h' : PairHistory} (htest : h.test = h'.test)
    (hsource : h.source = h'.source) :
    (classify { x with history := h }).decision = (classify { x with history := h' }).decision := by
  have hmessage : h.source.map Commit.message = h'.source.map Commit.message := by rw [hsource]
  have hnewer : sourceIsNewer h = sourceIsNewer h' := by
    rw [sourceIsNewer, sourceIsNewer, htest, hsource]
  cases hreported : x.detection.reported? with
  | none => simp only [classify, hreported, pass, decision]
  | some d =>
    obtain ⟨hkind, hregression, hconfidence, hrecommendation⟩ :=
      onDivergence_congr (a := x) (d := d) hmessage hnewer
    simp only [classify, hreported, decision, hkind, hregression, hconfidence, hrecommendation]

variable {m : Type → Type} [Monad m]

/-- The decision on an analysis with the histories that settings let an archive look up. -/
def decided (a : Archive m) (s : Settings) (x : Analysis) : m Decision := do
  let history ← ({ archive := a, historyLimit := s.historyLimit } : Assessor m).history x.pair
  return (classify { x with history }).decision

/-- The decision is the one on the newest commits, or on none. -/
theorem decided_eq [LawfulMonad m] {a : Archive m} {history : Path → List Commit}
    (h : a.Cuts history) (s : Settings) (x : Analysis) :
    decided a s x = (do
      let _ ← a.origins x.pair.method.file x.pair.method.line
        (max x.pair.method.endLine x.pair.method.line)
      return (classify { x with history :=
        if s.historyLimit = 0 then {}
        else { test := (history x.pair.test.file).head?
               source := (history x.pair.method.file).head? } }).decision) := by
  rw [decided, Assessor.history, h.pairHistory_eq, bind_assoc]
  refine bind_congr fun origins => ?_
  rw [pure_bind]
  refine congrArg pure (decision_classify_congr x ?_ ?_)
  all_goals
    by_cases hzero : s.historyLimit = 0
    · simp only [hzero, if_true]
    · simp only [hzero, if_false]

/-- Settings that differ in the limit of the histories are accepted or refused alike. Where both
limits let a commit be looked up, the decision is the same. The limit zero decides as if neither
file had a history. -/
theorem limits_decide_alike [LawfulMonad m] {a : Archive m} {history : Path → List Commit}
    (h : a.Cuts history) (s : Settings) (limit : Nat) (x : Analysis) :
    { s with historyLimit := limit }.fault? = s.fault? ∧
      (1 ≤ s.historyLimit → 1 ≤ limit →
        decided a { s with historyLimit := limit } x = decided a s x) ∧
      decided a { s with historyLimit := 0 } x = (do
        let _ ← a.origins x.pair.method.file x.pair.method.line
          (max x.pair.method.endLine x.pair.method.line)
        return (classify { x with history := {} }).decision) := by
  refine ⟨rfl, fun hs hlimit => ?_, ?_⟩
  · have hs : s.historyLimit ≠ 0 := by omega
    have hlimit : limit ≠ 0 := by omega
    rw [decided_eq h, decided_eq h, if_neg hs, if_neg hlimit]
  · rw [decided_eq h, if_pos rfl]

/-- The commits of a method that was changed on purpose after its test. -/
def changedOnPurpose (p : Path) : List Commit :=
  if p = "src/main/java/Calc.java" then [⟨"a1", "feat: new rate", "Ada", ⟨300, 0⟩⟩]
  else [⟨"b1", "test: cover rate", "Bob", ⟨200, 0⟩⟩]

/-- An archive of these commits. -/
def purposeful : Archive Id :=
  { commits := fun p limit => pure ((changedOnPurpose p).take limit)
    origins := fun _ _ _ => pure [] }

/-- A test that expects another value than its method returns. -/
def disputed : Analysis :=
  { pair := Static.expecting "90" "return 85;"
    detection := .reported .static
      { kind := .returnValue, description := "Test expects 90 but the method returns 85"
        testLine := 1, codeLine := 1, expected := "90", actual := "85" }
      0.75 "Compared literal values" }

private theorem fault?_eq_none_of_limit (limit : Nat) :
    ({ historyLimit := limit } : Settings).fault? = none := by
  have hown : ({} : Settings).fault?.isNone = true := by decide
  exact Option.isNone_iff_eq_none.mp hown

/-- Two commits or ten, the same newest ones count. -/
theorem two_commits_decide_like_ten :
    purposeful.Cuts changedOnPurpose ∧ (1 ≤ ({} : Settings).historyLimit ∧ 1 ≤ 2) ∧
      decided purposeful { historyLimit := 2 } disputed = decided purposeful {} disputed := by
  have hcuts : purposeful.Cuts changedOnPurpose := fun _ _ => rfl
  have hten : 1 ≤ ({} : Settings).historyLimit := by decide
  exact ⟨hcuts, ⟨hten, by decide⟩,
    (limits_decide_alike hcuts {} 2 disputed).2.1 hten (by decide)⟩

/-- Both limits are accepted, and yet the outdated test becomes a bug of the code when no commit is
looked up. -/
theorem limit_zero_decides_otherwise :
    purposeful.Cuts changedOnPurpose ∧
      (({ historyLimit := 10 } : Settings).fault? = none ∧
        (decided purposeful { historyLimit := 10 } disputed).kind = .outdatedTest) ∧
      ({ historyLimit := 0 } : Settings).fault? = none ∧
        (decided purposeful { historyLimit := 0 } disputed).kind = .codeBug := by
  have hcuts : purposeful.Cuts changedOnPurpose := fun _ _ => rfl
  refine ⟨hcuts, ⟨fault?_eq_none_of_limit 10, ?_⟩, fault?_eq_none_of_limit 0, ?_⟩
  · rw [decided_eq hcuts]
    decide
  · rw [decided_eq hcuts]
    decide

end Verdict

end Adjudicator
