/-!
# Programs

Programs that can be looked for and started. What a program printed and how it ended are all that
is known of it afterwards.
-/

namespace Adjudicator

/-- What a program left behind. -/
structure Finished where
  /-- What it printed. -/
  output : List Char
  /-- What it printed as errors. -/
  errors : List Char
  /-- How it ended; zero stands for success. -/
  status : Nat
deriving DecidableEq, Repr, Inhabited

/-- Programs whose starts are actions of a monad. -/
structure Programs (m : Type → Type) where
  /-- Whether there is a program of a name. -/
  has : String → m Bool
  /-- Starts a program with arguments in a directory; nothing when there is none of the name. -/
  start : String → String → List String → m (Option Finished)

end Adjudicator
