import Adjudicator.Assistant.Answer
import Adjudicator.Divergence.Failure
import Adjudicator.Divergence.Inference
import Adjudicator.Divergence.Reply
import Adjudicator.Divergence.Static

/-!
# The search for a divergence

The stages are asked one after the other, and the first that reports a divergence ends the search:
the message of a real failure, the reply of an assistant, the numbers of test and method, and the
change of a constant. Without any report the pair agrees.
-/

namespace Adjudicator

/-- What the stages look at. -/
structure Evidence where
  /-- The pair. -/
  pair : Pair
  /-- The message of a real failure. -/
  failure : Option String := none
  /-- The text of the method's file. -/
  file : Option String := none
deriving Repr

/-- A stage of the search, whose answer may take an action. -/
structure Strategy (m : Type → Type) where
  /-- The stage it stands for. -/
  stage : Stage
  /-- Its answer. -/
  detect : Evidence → m (Option Detection)

namespace Cascade

variable {m : Type → Type} [Monad m]

/-- Confidence that a pair agrees when no stage reports a divergence. -/
def agreement : Float :=
  0.99

/-- The answer when no stage reports a divergence. -/
def nothing : Detection :=
  { found := false, divergence := none, confidence := agreement,
    details := "No divergence found by any detection stage", stage := .nothing }

/-- The answer of the first strategy that has one. -/
def detect (strategies : List (Strategy m)) (e : Evidence) : m Detection :=
  match strategies with
  | [] => pure nothing
  | s :: rest => do
    match ← s.detect e with
    | some d => pure d
    | none => detect rest e

/-- The stage that reads a failure message. -/
def failureStrategy : Strategy m :=
  ⟨.failure, fun e => pure (Failure.detect? e.pair e.failure)⟩

/-- The stage that asks an assistant; without an answer there is no report. -/
def assistantStrategy (a : Assistant m) : Strategy m :=
  { stage := .assistant
    detect := fun e => do
      if ← a.available then
        match ← a.compare e.pair.test.body e.pair.method.body with
        | .ok reply => return Reply.detect? e.pair reply
        | .error _ => return none
      else return none }

/-- The stage that compares numbers. -/
def staticStrategy (grammars : Outline.Grammars) : Strategy m :=
  ⟨.static, fun e => pure (Static.detect? e.pair (e.file.map String.toList) grammars)⟩

/-- The stage that infers the change of a constant. -/
def inferenceStrategy : Strategy m :=
  ⟨.inference, fun e => pure (Inference.detect? e.pair)⟩

/-- The stages in their order, with or without an assistant. -/
def strategies (assistant : Option (Assistant m)) (grammars : Outline.Grammars := .usual) :
    List (Strategy m) :=
  failureStrategy ::
    ((assistant.map assistantStrategy).toList ++ [staticStrategy grammars, inferenceStrategy])

end Cascade

end Adjudicator
