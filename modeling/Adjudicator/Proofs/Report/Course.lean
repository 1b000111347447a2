import Adjudicator.Report.Assessment
import Mathlib.Data.List.Forall2

/-!
# Courses of assessments

An assessment turns to its surroundings with inquiries: prompts for an assistant and look-ups of
histories. A course stops at every inquiry and goes on with whatever the answer is, so the reports
that a course may yield are those of all assistants and all archives, whatever they remember and
however their answers depend on each other. Main statement: in every lawful monad an assessment
performs its course.
-/

namespace Adjudicator

/-- What an assessment asks its surroundings. -/
inductive Inquiry where
  /-- Whether the assistant can be asked. -/
  | available
  /-- A prompt for the assistant. -/
  | ask (prompt : String)
  /-- The newest commits of a path. -/
  | commits (path : Path) (limit : Nat)
  /-- The origins of lines of a path. -/
  | origins (path : Path) (first last : Nat)
deriving DecidableEq, Repr

/-- The answers that an inquiry can get. -/
abbrev Inquiry.Answer : Inquiry → Type
  | available => Bool
  | ask _ => Except AssistantError String
  | commits _ _ => List Commit
  | origins _ _ _ => List Origin

/-- A computation that stops at its inquiries. -/
inductive Course (α : Type) where
  /-- It has ended with a result. -/
  | done (result : α)
  /-- It stops at an inquiry and goes on with the answer. -/
  | inquire (q : Inquiry) (next : q.Answer → Course α)

namespace Course

variable {α β γ : Type}

/-- One course after another. -/
def bind : Course α → (α → Course β) → Course β
  | done a, f => f a
  | inquire q next, f => inquire q fun answer => (next answer).bind f

instance : Monad Course where
  pure := done
  bind := bind

/-- The course of one inquiry. -/
def ask (q : Inquiry) : Course q.Answer :=
  inquire q done

/-- A value without an inquiry is done. -/
@[simp] theorem pure_eq_done (a : α) : (pure a : Course α) = done a :=
  rfl

/-- What is done goes on at once. -/
@[simp] theorem done_bind (a : α) (f : α → Course β) : (done a >>= f) = f a :=
  rfl

/-- An inquiry goes on behind its answer. -/
@[simp] theorem inquire_bind (q : Inquiry) (next : q.Answer → Course α) (f : α → Course β) :
    (inquire q next >>= f) = inquire q fun answer => next answer >>= f :=
  rfl

private theorem bind_done (c : Course α) : c >>= done = c := by
  induction c with
  | done a => rfl
  | inquire q next ih => simp only [inquire_bind, ih]

private theorem bind_bind (c : Course α) (f : α → Course β) (g : β → Course γ) :
    c >>= f >>= g = c >>= fun a => f a >>= g := by
  induction c with
  | done a => rfl
  | inquire q next ih => simp only [inquire_bind, ih]

instance : LawfulMonad Course :=
  LawfulMonad.mk' Course bind_done done_bind bind_bind

/-- Whether a course may end with a result: some answers to its inquiries lead there. -/
inductive Yields : Course α → α → Prop where
  | done (a : α) : Yields (.done a) a
  | inquire {q : Inquiry} {next : q.Answer → Course α} {a : α} (answer : q.Answer)
      (h : Yields (next answer) a) : Yields (.inquire q next) a

/-- What is done yields its value only. -/
@[simp] theorem yields_done {a b : α} : (done a).Yields b ↔ b = a := by
  constructor
  · rintro ⟨⟩
    rfl
  · rintro rfl
    exact .done b

/-- An inquiry yields what it does with some answer. -/
@[simp] theorem yields_inquire {q : Inquiry} {next : q.Answer → Course α} {a : α} :
    (inquire q next).Yields a ↔ ∃ answer, (next answer).Yields a := by
  constructor
  · rintro ⟨⟩
    exact ⟨_, ‹_›⟩
  · rintro ⟨answer, h⟩
    exact .inquire answer h

/-- A course of two parts ends where the second part ends behind a result of the first. -/
@[simp] theorem yields_bind {c : Course α} {f : α → Course β} {b : β} :
    (c >>= f).Yields b ↔ ∃ a, c.Yields a ∧ (f a).Yields b := by
  induction c with
  | done a => simp only [done_bind, yields_done, exists_eq_left]
  | inquire q next ih =>
    simp only [inquire_bind, yields_inquire, ih]
    constructor
    · rintro ⟨answer, a, ha, hb⟩
      exact ⟨a, ⟨answer, ha⟩, hb⟩
    · rintro ⟨a, ⟨answer, ha⟩, hb⟩
      exact ⟨answer, a, ha, hb⟩

instance (q : Inquiry) : Nonempty q.Answer := by
  cases q with
  | available => exact ⟨false⟩
  | ask prompt => exact ⟨.error .emptyResponse⟩
  | commits path limit => exact ⟨([] : List Commit)⟩
  | origins path first last => exact ⟨([] : List Origin)⟩

/-- Every course ends. -/
theorem exists_yields (c : Course α) : ∃ a, c.Yields a := by
  induction c with
  | done a => exact ⟨a, .done a⟩
  | inquire q next ih =>
    obtain ⟨answer⟩ := (inferInstance : Nonempty q.Answer)
    obtain ⟨a, h⟩ := ih answer
    exact ⟨a, .inquire answer h⟩

/-- The assistant whose actions are inquiries. -/
def assistant : Assistant Course :=
  { available := ask .available, ask := fun prompt => ask (.ask prompt) }

/-- The archive whose actions are inquiries. -/
def archive : Archive Course :=
  { commits := fun path limit => ask (.commits path limit)
    origins := fun path first last => ask (.origins path first last) }

variable {m : Type → Type} [Monad m]

/-- Goes through a course with the answers that actions of a monad give. -/
def perform (answer : (q : Inquiry) → m q.Answer) : Course α → m α
  | done a => pure a
  | inquire q next => do (next (← answer q)).perform answer

variable (answer : (q : Inquiry) → m q.Answer)

/-- What is done is performed without an answer. -/
@[simp] theorem perform_done (a : α) : (done a).perform answer = pure a :=
  rfl

private theorem perform_ask [LawfulMonad m] (q : Inquiry) : (ask q).perform answer = answer q := by
  simp only [ask, perform, bind_pure]

/-- Whether there is an assistant is asked for once. -/
@[simp] theorem perform_available [LawfulMonad m] :
    assistant.available.perform answer = answer .available :=
  perform_ask answer _

/-- A prompt is asked once. -/
@[simp] theorem perform_assistant_ask [LawfulMonad m] (prompt : String) :
    (assistant.ask prompt).perform answer = answer (.ask prompt) :=
  perform_ask answer _

/-- The commits of a path are asked for once. -/
@[simp] theorem perform_commits [LawfulMonad m] (path : Path) (limit : Nat) :
    (archive.commits path limit).perform answer = answer (.commits path limit) :=
  perform_ask answer _

/-- The origins of lines are asked for once. -/
@[simp] theorem perform_origins [LawfulMonad m] (path : Path) (first last : Nat) :
    (archive.origins path first last).perform answer = answer (.origins path first last) :=
  perform_ask answer _

/-- One course behind another is performed behind it. -/
@[simp] theorem perform_bind [LawfulMonad m] (c : Course α) (f : α → Course β) :
    (c >>= f).perform answer = c.perform answer >>= fun a => (f a).perform answer := by
  induction c with
  | done a => simp only [done_bind, perform_done, pure_bind]
  | inquire q next ih => simp only [inquire_bind, perform, ih, bind_assoc]

/-- Of two courses the one that is chosen is performed. -/
@[simp] theorem perform_ite {p : Prop} [Decidable p] (c d : Course α) :
    (if p then c else d).perform answer = if p then c.perform answer else d.perform answer := by
  split <;> rfl

/-- When inquiries may break off, a course is performed to a report that it may yield, or to
none. -/
theorem exists_perform_noting [LawfulMonad m] (answer : (q : Inquiry) → OptionT m q.Answer)
    (c : Course α) :
    ∃ noted : m { outcome : Option α // ∀ a, outcome = some a → c.Yields a },
      (c.perform answer).run = Subtype.val <$> noted := by
  induction c with
  | done a =>
    refine ⟨pure ⟨some a, fun b hb => yields_done.mpr (Option.some.inj hb).symm⟩, ?_⟩
    rw [map_pure]
    rfl
  | inquire q next ih =>
    choose noted hnoted using ih
    refine ⟨do
      match ← (answer q).run with
      | some given => (fun o => ⟨o.1, fun a ha => .inquire given (o.2 a ha)⟩) <$> noted given
      | none => pure ⟨none, nofun⟩, ?_⟩
    rw [perform, OptionT.run_bind, Option.elimM, map_bind]
    congr 1
    funext given
    cases given with
    | none => simp only [Option.elim_none, map_pure]
    | some given => rw [Option.elim_some, hnoted, Functor.map_map]

end Course

namespace Assessor

variable {m : Type → Type} [Monad m]

/-- The assessor that turns to its surroundings by inquiries. -/
def asking (a : Assessor m) : Assessor Course :=
  { assistant := a.assistant.map fun _ => Course.assistant
    archive := Course.archive
    run := a.run
    historyLimit := a.historyLimit
    grammars := a.grammars }

/-- How an assessor's assistant and archive answer inquiries; without an assistant none is made to
it. -/
def answer (a : Assessor m) : (q : Inquiry) → m q.Answer
  | .available => (a.assistant.map Assistant.available).getD (pure false)
  | .ask prompt =>
    (a.assistant.map fun s => s.ask prompt).getD (pure (.error .emptyResponse))
  | .commits path limit => a.archive.commits path limit
  | .origins path first last => a.archive.origins path first last

section Lawful

variable [LawfulMonad m] (a : Assessor m)

private theorem perform_history (pair : Pair) :
    (a.asking.history pair).perform a.answer = a.history pair := by
  simp [history, Archive.pairHistory, asking, answer]

private theorem perform_describe (pair : Pair) :
    (a.asking.describe pair).perform a.answer = a.describe pair := by
  cases h : a.assistant with
  | none => simp [describe, asking, h]
  | some s =>
    simp [describe, asking, h, answer, Assistant.expectation, Assistant.behavior, Assistant.askFor]

private theorem perform_assistantStrategy {s : Assistant m} (h : a.assistant = some s)
    (e : Evidence) :
    ((Cascade.assistantStrategy Course.assistant).detect e).perform a.answer =
      (Cascade.assistantStrategy s).detect e := by
  simp only [Cascade.assistantStrategy, Assistant.compare, Course.perform_bind,
    Course.perform_available, answer, h, Option.map_some, Option.getD_some, Course.perform_ite,
    Course.perform_assistant_ask]
  congr 1
  funext available
  congr 2
  funext reply
  cases reply <;> rfl

/-- Strategies with the same performances find the same. -/
private theorem perform_cascade {asking : List (Strategy Course)} {acting : List (Strategy m)}
    (h : List.Forall₂ (fun s t => ∀ e, (s.detect e).perform a.answer = t.detect e) asking acting)
    (e : Evidence) :
    (Cascade.detect asking e).perform a.answer = Cascade.detect acting e := by
  induction h with
  | nil => rfl
  | cons head _ ih =>
    simp only [Cascade.detect, Course.perform_bind, head]
    congr 1
    funext found
    cases found with
    | none => exact ih
    | some d => rfl

private theorem perform_detect (e : Evidence) :
    (Cascade.detect (Cascade.strategies a.asking.assistant a.asking.grammars) e).perform a.answer =
      Cascade.detect (Cascade.strategies a.assistant a.grammars) e := by
  apply perform_cascade
  cases h : a.assistant with
  | none =>
    simp only [asking, h, Cascade.strategies, Option.map_none, Option.toList_none, List.nil_append]
    exact .cons (fun _ => rfl) (.cons (fun _ => rfl) (.cons (fun _ => rfl) .nil))
  | some s =>
    simp only [asking, h, Cascade.strategies, Option.map_some, Option.toList_some,
      List.singleton_append]
    exact .cons (fun _ => rfl) (.cons (a.perform_assistantStrategy h)
      (.cons (fun _ => rfl) (.cons (fun _ => rfl) .nil)))

private theorem perform_withFix {s : Assistant m} (h : a.assistant = some s) (analysis : Analysis)
    (v : Verdict) :
    (Verdict.withFix Course.assistant analysis v).perform a.answer =
      Verdict.withFix s analysis v := by
  simp only [Verdict.withFix, Assistant.fix, Course.perform_bind, Course.perform_available, answer,
    h, Option.map_some, Option.getD_some, Course.perform_ite, Course.perform_assistant_ask]
  congr 1
  funext available
  congr 2
  · congr 1
    funext reply
    cases reply with
    | error e => rfl
    | ok text => simp only; split <;> rfl
  · funext fix
    cases fix <;> rfl

private theorem perform_determine (analysis : Analysis) :
    (Verdict.determine a.asking.assistant analysis).perform a.answer =
      Verdict.determine a.assistant analysis := by
  cases h : a.assistant with
  | none => simp only [asking, h, Verdict.determine, Option.map_none]; rfl
  | some s =>
    simp only [asking, h, Verdict.determine, Option.map_some, Course.perform_ite,
      a.perform_withFix h]
    rfl

/-- In every lawful monad an assessment performs its course. -/
theorem perform_assess (pair : Pair) (file : Option String) :
    (a.asking.assess pair file).perform a.answer = a.assess pair file := by
  have hfailure : a.asking.failureOf? pair = a.failureOf? pair := rfl
  simp only [assess, hfailure]
  cases early? pair (a.failureOf? pair) with
  | some report => rfl
  | none =>
    simp only [Course.perform_bind, perform_detect, perform_describe, perform_history,
      perform_determine]
    rfl

end Lawful

end Assessor

end Adjudicator
