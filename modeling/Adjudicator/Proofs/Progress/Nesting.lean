import Adjudicator.Progress

/-!
# Nested settings

Work is done one part after the other and in blocks, each of which sets a field of the activity and
releases the setting at its end. Main statement: wherever a part stands, each field has the value of
the innermost setting of that field around the part, or its value from outside, and the part leaves
the activity as it finds it. A release writes all three fields back, so this takes the settings of
all fields together: whatever a block does, its own setting is the newest at its end.
-/

namespace Adjudicator

namespace Setting

/-- The phase that a setting sets. -/
def phase? : Setting → Option Phase
  | phase p => some p
  | _ => none

/-- The file that a setting sets. -/
def file? : Setting → Option Path
  | file p => some p
  | _ => none

/-- The test that a setting sets. -/
def test? : Setting → Option String
  | test name => some name
  | _ => none

end Setting

namespace Activity

/-- The activity within settings, the innermost first: each field has the value of the first
setting of the field, or the value from outside. -/
def within (around : List Setting) (a : Activity) : Activity where
  phase := (around.findSome? Setting.phase?).or a.phase
  file := (around.findSome? Setting.file?).or a.file
  test := (around.findSome? Setting.test?).or a.test

/-- Without settings the activity is the one from outside. -/
theorem within_nil (a : Activity) : a.within [] = a :=
  rfl

/-- One more setting around the others gives way to them. -/
theorem within_concat (around : List Setting) (s : Setting) (a : Activity) :
    a.within (around ++ [s]) = (s.apply a).within around := by
  simp only [within, List.findSome?_append, Option.or_assoc]
  cases s <;> rfl

end Activity

/-- Work in blocks. -/
inductive Work where
  /-- Nothing is done. -/
  | nothing
  /-- It is set how far the work is. -/
  | start (done total : Nat)
  /-- A pair is finished. -/
  | finishOne
  /-- One part comes after the other. -/
  | andThen (first second : Work)
  /-- A setting lasts for the body and is released at its end. -/
  | during (s : Setting) (body : Work)
deriving DecidableEq, Repr

namespace Work

/-- Does the work. -/
def run : Work → Progress → Progress
  | nothing, p => p
  | start done total, p => p.start done total
  | finishOne, p => p.finishOne
  | andThen first second, p => second.run (first.run p)
  | during s body, p => (body.run (p.enter s)).leave

variable {w part : Work} {p q : Progress} {around : List Setting}

/-- The newest setting is released. -/
theorem leave_of_saved {a : Activity} {rest : List Activity} (h : p.saved = a :: rest) :
    p.leave = { p with current := a, saved := rest } := by
  rw [Progress.leave, h]

/-- Work releases what it sets and nothing else. -/
theorem saved_run (w : Work) (p : Progress) : (w.run p).saved = p.saved := by
  induction w generalizing p with
  | nothing => rfl
  | start => rfl
  | finishOne => rfl
  | andThen first second ihfirst ihsecond => rw [run, ihsecond, ihfirst]
  | during s body ih => rw [run, leave_of_saved (ih (p.enter s))]

/-- A block brings back the activity from before its own setting. -/
theorem run_during (s : Setting) (body : Work) (p : Progress) :
    (during s body).run p =
      { body.run (p.enter s) with current := p.current, saved := p.saved } := by
  rw [run, leave_of_saved (saved_run body (p.enter s))]

/-- Work leaves the activity behind as it was before. -/
theorem current_run (w : Work) (p : Progress) : (w.run p).current = p.current := by
  induction w generalizing p with
  | nothing => rfl
  | start => rfl
  | finishOne => rfl
  | andThen first second ihfirst ihsecond => rw [run, ihsecond, ihfirst]
  | during s body => rw [run_during]

/-- Work that begins at some progress comes to a part of it, within settings, the innermost first,
at another progress. -/
inductive Reaches : Work → Progress → List Setting → Work → Progress → Prop where
  /-- It begins with itself. -/
  | whole {w : Work} {p : Progress} : Reaches w p [] w p
  /-- It comes to what its first part comes to. -/
  | first {first second part : Work} {p q : Progress} {around : List Setting}
      (h : Reaches first p around part q) : Reaches (andThen first second) p around part q
  /-- It comes to what its second part comes to behind the first. -/
  | second {first second part : Work} {p q : Progress} {around : List Setting}
      (h : Reaches second (first.run p) around part q) :
      Reaches (andThen first second) p around part q
  /-- A block comes to what its body comes to, and its setting is around all that. -/
  | body {s : Setting} {body part : Work} {p q : Progress} {around : List Setting}
      (h : Reaches body (p.enter s) around part q) :
      Reaches (during s body) p (around ++ [s]) part q

/-- Where a part begins, the settings around it hold. -/
theorem Reaches.current_eq (h : Reaches w p around part q) :
    q.current = p.current.within around := by
  induction h with
  | whole => exact (Activity.within_nil _).symm
  | first _ ih => exact ih
  | @second first _ _ p _ _ _ ih => rw [ih, current_run first p]
  | body _ ih =>
    rw [ih, Activity.within_concat]
    rfl

/-- Where work comes to a part of it, each field of the activity has the value of the innermost
setting of the field around the part, or the value from before the work when there is none; and
behind the part the activity and the settings that last are what they were in front of it. -/
theorem settings_hold_in_blocks (w : Work) (p : Progress) (h : Reaches w p around part q) :
    q.current.phase = (around.findSome? Setting.phase?).or p.current.phase ∧
      q.current.file = (around.findSome? Setting.file?).or p.current.file ∧
      q.current.test = (around.findSome? Setting.test?).or p.current.test ∧
      (part.run q).current = q.current ∧ (part.run q).saved = q.saved := by
  rw [h.current_eq]
  exact ⟨rfl, rfl, rfl, (current_run part q).trans h.current_eq, saved_run part q⟩

/-- Behind the block of another file, a test is set within the file around it. -/
theorem settings_hold_in_test :
    let other := during (.file "B.java") finishOne
    let test := during (.test "adds") nothing
    let w := during (.phase .parsing) (during (.file "A.java") (andThen other test))
    let outer : Progress := { total := 2 }
    let inner := (other.run ((outer.enter (.phase .parsing)).enter (.file "A.java"))).enter
      (.test "adds")
    Reaches w outer [.test "adds", .file "A.java", .phase .parsing] nothing inner ∧
      inner.current.phase = some .parsing ∧ inner.current.file = some "A.java" ∧
      inner.current.test = some "adds" := by
  intro other test w outer inner
  have h : Reaches w outer [.test "adds", .file "A.java", .phase .parsing] nothing inner :=
    .body (.body (.second (.body .whole)))
  obtain ⟨hphase, hfile, htest, -⟩ := settings_hold_in_blocks w outer h
  exact ⟨h, hphase, hfile, htest⟩

end Work

end Adjudicator
