/-! The phases of a run, and the three ways in which they change.

`set` is unconditional, `advance` moves from one phase only, and `drain` starts
the end of a run that has started and is not past that point. -/

namespace LoadHarness

/-- The life of a run. -/
inductive Phase where
  /-- Configured; the setup hook has not finished. -/
  | idle
  /-- Virtual users are being started and the deadline is set. -/
  | starting
  /-- All virtual users run iterations. -/
  | running
  /-- The deadline has passed or a stop was asked for: iterations finish, and none start. -/
  | draining
  /-- Every virtual user has stopped. -/
  | done
deriving DecidableEq, Repr

namespace Phase

def all : List Phase := [idle, starting, running, draining, done]

def name : Phase → String
  | idle => "Idle"
  | starting => "Starting"
  | running => "Running"
  | draining => "Draining"
  | done => "Done"

/-- The place of a phase in the life of a run. -/
def rank : Phase → Nat
  | idle => 0
  | starting => 1
  | running => 2
  | draining => 3
  | done => 4

instance : LE Phase := ⟨fun a b => a.rank ≤ b.rank⟩

instance : LT Phase := ⟨fun a b => a.rank < b.rank⟩

instance (a b : Phase) : Decidable (a ≤ b) := inferInstanceAs (Decidable (a.rank ≤ b.rank))

instance (a b : Phase) : Decidable (a < b) := inferInstanceAs (Decidable (a.rank < b.rank))

/-- The ways in which a phase changes. -/
inductive Change where
  | set (next : Phase)
  /-- Go on to the next phase, but only from the expected one. -/
  | advance (expected next : Phase)
  /-- Begin to drain, but only while virtual users start or run. -/
  | drain
deriving DecidableEq, Repr

/-- The phase after a change. -/
def change (phase : Phase) : Change → Phase
  | .set next => next
  | .advance expected next => if phase = expected then next else phase
  | .drain => if phase = starting ∨ phase = running then draining else phase

end Phase

end LoadHarness
