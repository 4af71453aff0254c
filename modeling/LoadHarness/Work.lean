import LoadHarness.Net.Request
import LoadHarness.Operation
import LoadHarness.Phase

/-! Work that a hook does on its surroundings.

Work is a tree: it is done with a value, or it takes an action and goes on with
whatever answer comes.  What answers come is settled by those who run it, so a
statement about work holds for all answers.  Between two actions of one party
any other party may act. -/

namespace LoadHarness

/-- Who acts in a run. -/
inductive Party where
  /-- The run itself, in its setup and its teardown. -/
  | run
  /-- A virtual user. -/
  | user (id : Nat)
  /-- What runs beside them: timers, and work that a hook left behind. -/
  | background
deriving DecidableEq, Repr

/-- The name by which virtual users are known. -/
def userName (id : Nat) : String := "vu-" ++ toString id

/-- An open connection, named by who opened it and how many that party had opened before. -/
structure Token where
  owner : Party
  serial : Nat
  /-- Whether the connection is kept outside the value of its owner, and so outlives it. -/
  leaked : Bool
deriving DecidableEq, Repr

/-- The state of a run in numbers. -/
structure Counts where
  checks : Nat
  iterations : Nat
  opened : Nat
  «open» : Nat
  /-- How the reporter shows itself. -/
  reporter : String
deriving DecidableEq, Repr

/-- How much a line of the log matters. -/
inductive Level where
  | error
  | warn
  | info
  | debug
deriving DecidableEq, Repr

def Level.name : Level → String
  | error => "ERROR"
  | warn => "WARN"
  | info => "INFO"
  | debug => "DEBUG"

/-- What a hook can do. -/
inductive Action where
  | log (level : Level) (message : String)
  /-- Record the outcome of a named check. -/
  | check (name : String) (passed : Bool)
  /-- Enter a connection in the books, as kept by the party's value or as leaked. -/
  | connect (leaked : Bool)
  /-- Close a connection, if it is open. -/
  | disconnect (token : Token)
  /-- Ask every virtual user to stop after its current iteration. -/
  | stop
  /-- Ask whether the run is stopping. -/
  | stopping
  /-- Wait until the run is stopping. -/
  | awaitStop
  | phase
  | counts
  /-- Read the clock. -/
  | now
  /-- Let time pass. -/
  | sleep (length : Duration)
  /-- Hand the record of an operation to the reporter. -/
  | report (operation : Operation)
  | ask (request : Net.Request)

/-- What comes back from an action. -/
def Answer : Action → Type
  | .connect _ => Token
  | .stopping => Bool
  | .phase => Phase
  | .counts => Counts
  | .now => Duration
  | .ask request => Net.Reply request
  | .log .. | .check .. | .disconnect _ | .stop | .awaitStop | .sleep _ | .report _ => Unit

/-- Work that ends with a value. -/
inductive Work (α : Type) where
  | done (value : α)
  | act (action : Action) (next : Answer action → Work α)

namespace Work

variable {α β γ : Type}

/-- Go on with other work when the first is done. -/
def bind : Work α → (α → Work β) → Work β
  | done value, f => f value
  | act action next, f => act action fun answer => (next answer).bind f

instance : Monad Work where
  pure := done
  bind := bind

/-- Take one action. -/
def perform (action : Action) : Work (Answer action) := act action done

theorem bind_done (work : Work α) : work.bind done = work := by
  induction work with
  | done value => rfl
  | act action next ih =>
    rw [bind]
    congr 1
    exact funext ih

theorem bind_assoc (work : Work α) (f : α → Work β) (g : β → Work γ) :
    (work.bind f).bind g = work.bind fun a => (f a).bind g := by
  induction work with
  | done value => rfl
  | act action next ih =>
    rw [bind, bind, bind]
    congr 1
    exact funext ih

instance : LawfulMonad Work :=
  LawfulMonad.mk' Work bind_done (fun _ _ => rfl) bind_assoc

def log (level : Level) (message : String) : Work Unit := perform (.log level message)

def check (name : String) (passed : Bool) : Work Unit := perform (.check name passed)

def ask (request : Net.Request) : Work (Net.Reply request) := perform (.ask request)

/-- The record of an operation that began at `start` and is over now. -/
def report (id : String) (start : Duration) (failed : Bool) : Work Unit := do
  let stop ← perform .now
  perform (.report ⟨id, failed, some ⟨stop.nanos - start.nanos⟩⟩)

end Work

end LoadHarness
