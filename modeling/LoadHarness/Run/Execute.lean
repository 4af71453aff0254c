import LoadHarness.Net.Host
import LoadHarness.Run.State

/-! Carrying a run out on a host.

Whoever can move does: the watcher of the drain first, then the run itself, then
the first virtual user that need not wait.  When all wait, the deadline passes.
Every step is a move of the run, so whatever holds after all moves holds here. -/

namespace LoadHarness.Run

namespace User

variable {V : Type}

/-- The action that a hook of the user would take next. -/
def action? (user : User V) : Option Action :=
  match user.point with
  | .setup (.act action _) | .behaviour (.act action _) | .teardown (.act action _) => some action
  | _ => none

/-- Whether a user can move. -/
def canMove (user : User V) (stopping : Bool) : Bool :=
  match user.action? with
  | some .awaitStop => stopping
  | _ => !user.isOver

end User

namespace State

variable {G V : Type}

/-- The action that a hook of the run would take next. -/
def action? (state : State G V) : Option Action :=
  match state.stage with
  | .setup (.act action _) | .teardown (.act action _) => some action
  | _ => none

/-- Whether the run itself can move. -/
def canMove (state : State G V) : Bool :=
  match state.action?, state.stage with
  | some .awaitStop, _ => state.shared.stopping
  | _, .join => state.allOver
  | _, .over _ => false
  | _, _ => true

/-- Who moves next. -/
inductive Turn where
  | drain
  | control
  | user (id : Nat)
  | deadline
deriving DecidableEq, Repr

/-- The next to move, if anyone can. -/
def turn? (state : State G V) : Option Turn :=
  if state.conclusion?.isSome then none
  else if state.armed && state.shared.stopping &&
      (state.shared.phase == .starting || state.shared.phase == .running) then some .drain
  else if state.canMove then some .control
  else match state.users.findIdx? (·.canMove state.shared.stopping) with
    | some id => some (.user id)
    | none => if state.armed && !state.deadlinePassed then some .deadline else none

/-- The action that whoever moves next would take. -/
def turnAction? (state : State G V) : Turn → Option Action
  | .control => state.action?
  | .user id => (state.users[id]?).bind (·.action?)
  | .drain | .deadline => none

/-- What the host says at this moment, and the host once it has been asked. -/
def consult {σ : Type} (host : Net.Host σ) (hostState : σ) (action : Option Action) :
    Outside × σ :=
  (⟨.zero, fun request => (host.answer hostState request).1⟩,
    match action with
    | some (.ask request) => (host.answer hostState request).2
    | _ => hostState)

/-- Let whoever can move, for so many moves at most. -/
def advance {σ : Type} (host : Net.Host σ) : Nat → State G V → σ → State G V × σ
  | 0, state, hostState => (state, hostState)
  | moves + 1, state, hostState =>
    match state.turn? with
    | none => (state, hostState)
    | some turn =>
      let (outside, hostState) := consult host hostState (state.turnAction? turn)
      let move := match turn with
        | .drain => .drain
        | .control => .control outside
        | .user id => .user id outside
        | .deadline => .deadline
      advance host moves (state.step move) hostState

/-- The number of moves after which the deadline passes. -/
def patience : Nat := 1000000

/-- Carry a run out to its end.  The deadline passes when nobody can move, or patience is at its
end. -/
def execute {σ : Type} (host : Net.Host σ) (state : State G V) (hostState : σ) : State G V × σ :=
  let (state, hostState) := advance host patience state hostState
  advance host patience (state.step .deadline) hostState

end State

end LoadHarness.Run
