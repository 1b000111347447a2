import Adjudicator.Proofs.Report.Passing

/-!
# Assessments without help

An assistant that cannot be asked, or that fails whatever it is asked, is an assistant that acts
on a memory of its own and never says anything. Main statement: a pair is then assessed as it is
without any assistant, whatever the assistant remembers and however the histories are looked up;
and an assistant that does answer adds at most a proposed change to a verdict.
-/

namespace Adjudicator

section Memory

variable {m : Type → Type} [Monad m] {σ α β : Type}

/-- An assistant with a memory of its own, among other actions. -/
def Assistant.remembering (a : Assistant (StateM σ)) : Assistant (StateT σ m) :=
  { available := fun memory => pure (a.available.run memory)
    ask := fun prompt memory => pure ((a.ask prompt).run memory) }

/-- An archive beside the memory of an assistant. -/
def Archive.beside (a : Archive m) : Archive (StateT σ m) :=
  { commits := fun p limit => StateT.lift (a.commits p limit)
    origins := fun p first last => StateT.lift (a.origins p first last) }

/-- The assessor that turns to an assistant with a memory of its own. -/
def Assessor.aidedBy (a : Assessor m) (assistant : Assistant (StateM σ)) : Assessor (StateT σ m) :=
  { assistant := some assistant.remembering
    archive := a.archive.beside
    run := a.run
    historyLimit := a.historyLimit
    grammars := a.grammars }

/-- The assessor without its assistant. -/
def Assessor.unaided (a : Assessor m) : Assessor m :=
  { a with assistant := none }

/-- Whatever an assistant remembers, it cannot be asked, or else it fails whatever it is asked. -/
def Assistant.Broken (a : Assistant (StateM σ)) : Prop :=
  (∀ memory, (a.available.run memory).1 = false) ∨
    ∀ prompt memory, ∃ e, ((a.ask prompt).run memory).1 = .error e

/-- The only effect of a computation is on the memory, and its result does not depend on it. -/
def Constantly (x : StateT σ m α) (a : α) : Prop :=
  ∀ memory, ∃ memory', x.run memory = pure (a, memory')

end Memory

/-! ## Computations with a constant result -/

section Constant

variable {m : Type → Type} [Monad m] {σ α β : Type}

private theorem constantly_pure (a : α) : Constantly (pure a : StateT σ m α) a :=
  fun memory => ⟨memory, StateT.run_pure a memory⟩

variable [LawfulMonad m]

/-- What is done with the first result alone decides the result. -/
private theorem Constantly.map_run_bind {x : StateT σ m α} {f : α → StateT σ m β} {a : α}
    {y : m β} (h : Constantly x a) (hf : ∀ memory, Prod.fst <$> (f a).run memory = y)
    (memory : σ) : Prod.fst <$> (x >>= f).run memory = y := by
  obtain ⟨memory', hx⟩ := h memory
  rw [StateT.run_bind, hx, pure_bind, hf]

end Constant

/-! ## Broken assistants -/

namespace Assistant.Broken

variable {m : Type → Type} [Monad m] [LawfulMonad m] {σ α : Type} {a : Assistant (StateM σ)}

/-- A broken assistant that is asked where it can be asked is not heard. -/
private theorem constantly (h : a.Broken) {asked unasked : StateT σ m α} {v : α}
    (hasked : (∀ prompt memory, ∃ e, ((a.ask prompt).run memory).1 = .error e) →
      Constantly asked v)
    (hunasked : Constantly unasked v) :
    Constantly (do if ← a.remembering.available then asked else unasked) v := by
  intro memory
  have hrun : (a.remembering.available : StateT σ m Bool).run memory =
      pure (a.available.run memory) := rfl
  rw [StateT.run_bind, hrun, pure_bind]
  cases havailable : (a.available.run memory).1 with
  | false => exact hunasked _
  | true =>
    rcases h with hnever | hfails
    · rw [hnever memory] at havailable
      cases havailable
    · exact hasked hfails _

private theorem constantly_ask {prompt : String}
    {f : Except AssistantError String → StateT σ m α} {v : α}
    (hfails : ∀ prompt memory, ∃ e, ((a.ask prompt).run memory).1 = .error e)
    (hf : ∀ e, Constantly (f (.error e)) v) :
    Constantly (a.remembering.ask prompt >>= f) v := by
  intro memory
  have hrun : (a.remembering.ask prompt : StateT σ m _).run memory =
      pure ((a.ask prompt).run memory) := rfl
  obtain ⟨e, he⟩ := hfails prompt memory
  rw [StateT.run_bind, hrun, pure_bind, he]
  exact hf e _

/-- The search goes on as if no assistant were there. -/
private theorem constantly_detect (h : a.Broken) (grammars : Outline.Grammars) (e : Evidence) :
    ∃ d, (Cascade.detect (Cascade.strategies none grammars) e : m Detection) = pure d ∧
      Constantly
        (Cascade.detect (Cascade.strategies (some (a.remembering (m := m))) grammars) e) d := by
  cases hfailure : Failure.detect? e.pair e.failure with
  | some d =>
    refine ⟨d, Cascade.detect_strategies none hfailure, ?_⟩
    rw [Cascade.detect_strategies _ hfailure]
    exact constantly_pure d
  | none =>
    refine ⟨Cascade.ofNumbers grammars e, Cascade.detect_strategies_none hfailure, ?_⟩
    rw [Cascade.detect_strategies_some _ hfailure]
    exact h.constantly (fun hfails => constantly_ask hfails fun _ => constantly_pure _)
      (constantly_pure _)

/-- Test and method are described as they can be read off the code. -/
private theorem constantly_describe (h : a.Broken) (b : Assessor m) (pair : Pair) :
    Constantly ((b.aidedBy a).describe pair)
      (Description.ofTest pair.test, Description.ofMethod pair.method) := by
  refine h.constantly (fun hfails => ?_) (constantly_pure _)
  simp only [Assistant.expectation, Assistant.behavior, Assistant.askFor, bind_assoc, pure_bind]
  exact constantly_ask hfails fun _ => constantly_ask hfails fun _ => constantly_pure _

/-- The verdict has no proposed change. -/
private theorem constantly_determine (h : a.Broken) (analysis : Analysis) :
    Constantly (Verdict.determine (some (a.remembering (m := m))) analysis)
      (Verdict.classify analysis) := by
  unfold Verdict.determine
  simp only []
  split
  · refine h.constantly (fun hfails => ?_) (constantly_pure _)
    simp only [Assistant.fix, bind_assoc]
    refine constantly_ask hfails fun e => ?_
    simp only [pure_bind]
    exact constantly_pure _
  · exact constantly_pure _

end Assistant.Broken

namespace Assessor

variable {m : Type → Type} [Monad m] [LawfulMonad m] {σ : Type} {assistant : Assistant (StateM σ)}

private theorem run_history (a : Assessor m) (pair : Pair) (memory : σ) :
    ((a.aidedBy assistant).history pair).run memory =
      (fun history => (history, memory)) <$> a.history pair := by
  simp only [history, Archive.pairHistory, aidedBy, Archive.beside, StateT.run_bind,
    StateT.run_lift, StateT.run_pure, bind_assoc, pure_bind, map_bind, map_pure]

/-- With a broken assistant a pair is assessed as without any. -/
theorem assess_of_broken (h : assistant.Broken) (a : Assessor m) (pair : Pair)
    (file : Option String) (memory : σ) :
    Prod.fst <$> ((a.aidedBy assistant).assess pair file).run memory =
      a.unaided.assess pair file := by
  have hfailure : (a.aidedBy assistant).failureOf? pair = a.unaided.failureOf? pair := rfl
  unfold assess
  rw [hfailure]
  simp only []
  cases early? pair (a.unaided.failureOf? pair) with
  | some report => simp only [StateT.run_pure, map_pure]
  | none =>
    obtain ⟨d, hnone, hdetect⟩ := h.constantly_detect (m := m) a.grammars
      ⟨pair, a.unaided.failureOf? pair, file⟩
    simp only [unaided] at hnone ⊢
    simp only [hnone, pure_bind, describe, Verdict.determine]
    refine hdetect.map_run_bind (fun memory => ?_) memory
    refine (h.constantly_describe a pair).map_run_bind (fun memory => ?_) memory
    rw [StateT.run_bind, run_history, bind_map_left, map_bind]
    congr 1
    funext history
    refine (h.constantly_determine _).map_run_bind (fun memory => ?_) memory
    rw [StateT.run_pure, map_pure]

end Assessor

/-! ## Proposed changes -/

namespace Verdict

/-- A verdict with this proposed change. -/
def proposing (v : Verdict) (fix : Option String) : Verdict :=
  { v with recommendation := { v.recommendation with fix } }

/-- A classification proposes no fix. -/
theorem fix_classify (a : Analysis) : (classify a).recommendation.fix = none := by
  unfold classify
  split <;> rfl

/-- Without a fix to propose a verdict stays as it is. -/
theorem proposing_none (a : Analysis) : (classify a).proposing none = classify a := by
  have h := fix_classify a
  rw [proposing, ← h]

variable {m : Type → Type} [Monad m]

/-- Where neither code nor test has to change, nothing is asked. -/
theorem determine_of_not_actionable (assistant : Option (Assistant m)) {a : Analysis}
    (h : (classify a).kind ≠ .codeBug ∧ (classify a).kind ≠ .outdatedTest) :
    determine assistant a = pure (classify a) := by
  have hkind : (classify a).kind.isActionable = false := by
    cases hk : (classify a).kind with
    | codeBug => exact absurd hk h.1
    | outdatedTest => exact absurd hk h.2
    | flakyTest => rfl
    | environmentIssue => rfl
    | passed => rfl
  unfold determine
  cases assistant with
  | none => rfl
  | some assistant => simp only [hkind, Bool.false_eq_true, if_false]

/-- What an assistant says can only enter a verdict as a proposed change. -/
theorem exists_determine_eq [LawfulMonad m] (assistant : Option (Assistant m)) (a : Analysis) :
    ∃ fix : m (Option String), determine assistant a = (classify a).proposing <$> fix := by
  have hnone : ∃ fix : m (Option String), pure (classify a) = (classify a).proposing <$> fix :=
    ⟨pure none, by rw [map_pure, proposing_none]⟩
  unfold determine
  cases assistant with
  | none => exact hnone
  | some assistant =>
    simp only []
    split
    · refine ⟨do
        if ← assistant.available then
          return (← assistant.fix (fixRequest a (classify a))).toOption.map Fix.suggestion
        else return none, ?_⟩
      rw [withFix, map_bind]
      congr 1
      funext available
      cases available with
      | false => simp only [Bool.false_eq_true, if_false, map_pure, proposing_none]
      | true =>
        simp only [if_true, map_bind, map_pure]
        congr 1
        funext reply
        cases reply with
        | ok f => rfl
        | error e =>
          simp only [Except.toOption, Option.map_none, proposing_none]
    · exact hnone

end Verdict

/-- A pair is assessed with an assistant that cannot be asked, or that fails whatever it is asked,
as without any. An assistant that does answer can only add a proposed change to the verdict on an
analysis, and only where code or test has to change. -/
theorem assistant_only_proposes_changes (m : Type → Type) [Monad m] [LawfulMonad m] :
    (∀ (a : Assessor m) (σ : Type) (assistant : Assistant (StateM σ)), assistant.Broken →
      ∀ (pair : Pair) (file : Option String) (memory : σ),
        Prod.fst <$> ((a.aidedBy assistant).assess pair file).run memory =
          a.unaided.assess pair file) ∧
    ∀ (assistant : Option (Assistant m)) (a : Analysis),
      (∃ fix : m (Option String),
        Verdict.determine assistant a = (Verdict.classify a).proposing <$> fix) ∧
      ((Verdict.classify a).kind ≠ .codeBug ∧ (Verdict.classify a).kind ≠ .outdatedTest →
        Verdict.determine assistant a = pure (Verdict.classify a)) :=
  ⟨fun a _ _ h => Assessor.assess_of_broken h a, fun assistant a =>
    ⟨Verdict.exists_determine_eq assistant a, Verdict.determine_of_not_actionable assistant⟩⟩

/-- An assistant that counts how often it is turned to, and fails. -/
def Assistant.countingFailures : Assistant (StateM Nat) :=
  { available := fun count => (true, count + 1)
    ask := fun _ count => (.error (.timeout count), count + 1) }

/-- The assistant that counts its failures leaves no trace in a report. -/
theorem counted_failures_change_nothing :
    Assistant.countingFailures.Broken ∧
      Prod.fst <$> (((Assessor.hearing [some "boom"]).aidedBy .countingFailures).assess
          Assessor.idlePair none).run 0 =
        (Assessor.hearing [some "boom"]).unaided.assess Assessor.idlePair none :=
  have hbroken : Assistant.countingFailures.Broken := .inr fun _ count => ⟨.timeout count, rfl⟩
  ⟨hbroken, (assistant_only_proposes_changes Course).1 _ _ _ hbroken _ _ _⟩

end Adjudicator
