import Adjudicator.Divergence.Cascade
import Adjudicator.Proofs.Text.Trim

/-!
# The first report ends the search

The stages are consulted in their order up to the first one that has a report, and none behind it.
What is consulted is noted on the way: strategies note their positions, an assistant the prompts
it is sent. Main statement: the message of a real failure decides alone, before any prompt, and
without one at most one prompt is sent, whatever the assistant does.
-/

namespace Adjudicator

open Text

/-! ## Failures as divergences -/

namespace Failure

/-- Every message reports a divergence. -/
theorem exists_interpret_eq_reported (message : List Char) (testLine codeLine : Nat) :
    ∃ divergence confidence details,
      interpret message testLine codeLine = .reported .failure divergence confidence details := by
  unfold interpret
  cases sides? message with
  | some sides => exact ⟨_, _, _, rfl⟩
  | none =>
    simp only []
    split <;> exact ⟨_, _, _, rfl⟩

/-- A message that is not blank is interpreted at the lines of assertion and method. -/
theorem detect?_of_not_blank (pair : Pair) {message : String}
    (h : blank message.toList = false) :
    detect? pair (some message) =
      some (interpret (trim message.toList) pair.test.firstAssertionLine pair.method.line) := by
  have htrim : (trim message.toList).isEmpty = false := by
    apply Bool.eq_false_iff.mpr
    intro he
    rw [trim_eq_nil_iff.mp (List.isEmpty_iff.mp he)] at h
    cases h
  simp only [detect?, htrim, Bool.false_eq_true, if_false]

/-- A blank message says nothing. -/
theorem detect?_of_blank (pair : Pair) {message : String} (h : blank message.toList = true) :
    detect? pair (some message) = none := by
  simp only [detect?, trim_eq_nil_iff.mpr h, List.isEmpty_nil, if_true]

end Failure

/-! ## Consulted strategies -/

namespace Cascade

/-- A strategy that notes its position whenever it is consulted. -/
def noting (position : Nat) (s : Strategy Id) : Strategy (StateM (List Nat)) :=
  { stage := s.stage
    detect := fun e => do
      modify fun log => log ++ [position]
      return (s.detect e).run }

/-- Strategies that note their positions, where the first has position `start`. -/
def notingFrom (start : Nat) (strategies : List (Strategy Id)) :
    List (Strategy (StateM (List Nat))) :=
  (strategies.zipIdx start).map fun (s, i) => noting i s

/-- The first report of strategies. -/
def firstReport? (strategies : List (Strategy Id)) (e : Evidence) : Option Detection :=
  strategies.findSome? fun s => (s.detect e).run

/-- The number of strategies up to the first one with a report, or of all. -/
def reach (strategies : List (Strategy Id)) (e : Evidence) : Nat :=
  ((strategies.findIdx? fun s => (s.detect e).run.isSome).map (· + 1)).getD strategies.length

private theorem reach_cons_of_none {s : Strategy Id} {e : Evidence}
    (h : (s.detect e).run = none) (rest : List (Strategy Id)) :
    reach (s :: rest) e = reach rest e + 1 := by
  simp only [reach, List.findIdx?_cons, h, Option.isSome_none, List.length_cons]
  cases rest.findIdx? fun s => (s.detect e).run.isSome <;> rfl

/-- Consulting goes on exactly up to the first report. -/
theorem run_detect_notingFrom (strategies : List (Strategy Id)) (e : Evidence) (start : Nat)
    (log : List Nat) :
    (detect (notingFrom start strategies) e).run log =
      ((firstReport? strategies e).getD nothing,
        log ++ List.range' start (reach strategies e)) := by
  induction strategies generalizing start log with
  | nil =>
    rw [reach, List.findIdx?_nil, List.length_nil, Option.map_none, Option.getD_none,
      List.range'_zero, List.append_nil]
    rfl
  | cons s rest ih =>
    have hcons : notingFrom start (s :: rest) = noting start s :: notingFrom (start + 1) rest := by
      rw [notingFrom, List.zipIdx_cons, List.map_cons]
      rfl
    have hstep : ((noting start s).detect e).run log = ((s.detect e).run, log ++ [start]) := rfl
    rw [hcons, detect, StateT.run_bind, hstep]
    cases hs : (s.detect e).run with
    | some d =>
      have hreach : reach (s :: rest) e = 1 := by
        simp only [reach, List.findIdx?_cons, hs, Option.isSome_some, if_true, Option.map_some,
          Option.getD_some]
      rw [hreach, firstReport?, List.findSome?_cons, hs]
      rfl
    | none =>
      have hrest := ih (start + 1) (log ++ [start])
      rw [reach_cons_of_none hs, firstReport?, List.findSome?_cons, hs, List.range'_succ]
      rw [List.append_assoc] at hrest
      exact hrest

end Cascade

/-! ## Prompts -/

/-- The assistant that notes every prompt it is sent. -/
def Assistant.noting {m : Type → Type} [Monad m] (a : Assistant m) :
    Assistant (StateT (List String) m) :=
  { available := StateT.lift a.available
    ask := fun prompt => do
      modify fun log => log ++ [prompt]
      StateT.lift (a.ask prompt) }

namespace Cascade

variable {m : Type → Type} [Monad m] [LawfulMonad m] {grammars : Outline.Grammars}

/-- Before strategies that find `d` without any action, a strategy only has to be asked itself. -/
theorem detect_cons {s : Strategy m} {rest : List (Strategy m)} {e : Evidence} {d : Detection}
    (h : detect rest e = pure d) :
    detect (s :: rest) e = (fun found => found.getD d) <$> s.detect e := by
  rw [detect, map_eq_pure_bind]
  congr 1
  funext found
  cases found with
  | some d => rfl
  | none => exact h

/-- The message of a failure is heard before any other stage. -/
theorem detect_strategies (assistant : Option (Assistant m)) {e : Evidence} {d : Detection}
    (h : Failure.detect? e.pair e.failure = some d) :
    detect (strategies assistant grammars) e = pure d := by
  simp only [strategies, detect, failureStrategy, h, pure_bind]

/-- What the numbers of test and method report. -/
def ofNumbers (grammars : Outline.Grammars) (e : Evidence) : Detection :=
  (Static.detect? e.pair (e.file.map String.toList) grammars).getD
    ((Inference.detect? e.pair).getD nothing)

/-- What is reported after an assistant's reply. -/
def ofReply (grammars : Outline.Grammars) (e : Evidence)
    (reply : Except AssistantError String) : Detection :=
  (reply.toOption.bind (Reply.detect? e.pair)).getD (ofNumbers grammars e)

private theorem detect_numbers (e : Evidence) :
    detect [staticStrategy grammars, inferenceStrategy] e =
      (pure (ofNumbers grammars e) : m Detection) := by
  have hinference : detect [inferenceStrategy] e =
      (pure ((Inference.detect? e.pair).getD nothing) : m Detection) := by
    rw [detect_cons rfl, inferenceStrategy, map_pure]
  rw [detect_cons hinference, staticStrategy, map_pure, ofNumbers]

private theorem detect_strategies_of_none (assistant : Option (Assistant m)) {e : Evidence}
    (h : Failure.detect? e.pair e.failure = none) :
    detect (strategies assistant grammars) e = detect
      ((assistant.map assistantStrategy).toList ++
        [staticStrategy grammars, inferenceStrategy]) e := by
  simp only [strategies, detect, failureStrategy, h, pure_bind]

/-- Without a message and without an assistant the numbers decide. -/
theorem detect_strategies_none {e : Evidence} (h : Failure.detect? e.pair e.failure = none) :
    detect (strategies none grammars) e = (pure (ofNumbers grammars e) : m Detection) := by
  rw [detect_strategies_of_none none h]
  exact detect_numbers e

/-- Without a message an assistant is asked once, when it can be asked at all. -/
theorem detect_strategies_some (a : Assistant m) {e : Evidence}
    (h : Failure.detect? e.pair e.failure = none) :
    detect (strategies (some a) grammars) e = do
      if ← a.available then
        return ofReply grammars e
          (← a.ask (Prompt.divergence e.pair.test.body e.pair.method.body))
      else return ofNumbers grammars e := by
  rw [detect_strategies_of_none (some a) h, Option.map_some, Option.toList_some,
    List.singleton_append, detect_cons (detect_numbers e), assistantStrategy, map_bind]
  congr 1
  funext available
  cases available with
  | false => simp only [Bool.false_eq_true, if_false, map_pure, Option.getD_none]
  | true =>
    simp only [if_true, Assistant.compare, map_bind]
    congr 1
    funext reply
    cases reply <;> simp only [map_pure] <;> rfl

/-- Without a message at most one prompt is sent, however the assistant acts. -/
theorem exists_run_noting (assistant : Option (Assistant m)) (grammars : Outline.Grammars)
    {e : Evidence} (h : Failure.detect? e.pair e.failure = none) :
    ∃ c : m { r : Detection × List String // r.2.length ≤ 1 },
      (detect (strategies (assistant.map Assistant.noting) grammars) e).run [] =
        Subtype.val <$> c := by
  cases assistant with
  | none =>
    refine ⟨pure ⟨(ofNumbers grammars e, []), Nat.zero_le 1⟩, ?_⟩
    rw [Option.map_none, detect_strategies_none h, StateT.run_pure, map_pure]
  | some a =>
    let prompt := Prompt.divergence e.pair.test.body e.pair.method.body
    refine ⟨do
      if ← a.available then
        return ⟨(ofReply grammars e (← a.ask prompt), [prompt]), Nat.le_refl 1⟩
      else return ⟨(ofNumbers grammars e, []), Nat.zero_le 1⟩, ?_⟩
    rw [Option.map_some, detect_strategies_some _ h]
    simp only [Assistant.noting, StateT.run_bind, StateT.run_lift, bind_assoc, pure_bind, map_bind]
    congr 1
    funext available
    cases available with
    | false => simp only [Bool.false_eq_true, if_false, StateT.run_pure, map_pure]
    | true =>
      simp only [if_true, StateT.run_bind, StateT.run_modify, StateT.run_lift, StateT.run_pure,
        bind_assoc, pure_bind, map_bind, map_pure]
      rfl

/-- The search ends with the first report: of any strategies the answer is that of the first one
that has one, and exactly those up to it are consulted; without any the pair agrees. Among the
stages a failure message that is not blank decides alone, by its text and the lines of assertion
and method, and no prompt is sent. Otherwise at most one prompt is sent. -/
theorem first_report_ends_search :
    (∀ (ss : List (Strategy Id)) (e : Evidence),
      (detect (notingFrom 0 ss) e).run [] =
        ((firstReport? ss e).getD nothing, List.range (reach ss e))) ∧
    (nothing.found = false ∧ nothing.divergence = none ∧ nothing.confidence = 0.99 ∧
      nothing.stage = .nothing) ∧
    (∀ (message : String) (testLine codeLine : Nat), blank message.toList = false →
      ∃ d : Detection, d.stage = .failure ∧ d.found = true ∧ d.divergence.isSome = true ∧
        ∀ e : Evidence, e.failure = some message → e.pair.test.firstAssertionLine = testLine →
          e.pair.method.line = codeLine →
          ∀ (m : Type → Type) [Monad m] [LawfulMonad m] (assistant : Option (Assistant m))
            (grammars : Outline.Grammars),
            detect (strategies assistant grammars) e = pure d ∧
            (detect (strategies (assistant.map Assistant.noting) grammars) e).run [] =
              pure (d, [])) ∧
    ∀ e : Evidence, (∀ message, e.failure = some message → blank message.toList = true) →
      ∀ (m : Type → Type) [Monad m] [LawfulMonad m] (assistant : Option (Assistant m))
        (grammars : Outline.Grammars),
        ∃ c : m { r : Detection × List String // r.2.length ≤ 1 },
          (detect (strategies (assistant.map Assistant.noting) grammars) e).run [] =
            Subtype.val <$> c := by
  refine ⟨?_, ⟨rfl, rfl, rfl, rfl⟩, ?_, ?_⟩
  · intro ss e
    rw [run_detect_notingFrom, List.nil_append, List.range_eq_range']
  · intro message testLine codeLine hblank
    obtain ⟨divergence, confidence, details, hreported⟩ :=
      Failure.exists_interpret_eq_reported (trim message.toList) testLine codeLine
    refine ⟨.reported .failure divergence confidence details, rfl, rfl, rfl, ?_⟩
    intro e hmessage htest hcode m _ _ assistant grammars
    have hdetect : Failure.detect? e.pair e.failure =
        some (.reported .failure divergence confidence details) := by
      rw [hmessage, Failure.detect?_of_not_blank _ hblank, htest, hcode, hreported]
    refine ⟨detect_strategies assistant hdetect, ?_⟩
    rw [detect_strategies _ hdetect, StateT.run_pure]
  · intro e hblank m _ _ assistant grammars
    apply exists_run_noting
    cases hmessage : e.failure with
    | none => rfl
    | some message => exact Failure.detect?_of_blank _ (hblank message hmessage)

end Cascade

end Adjudicator
