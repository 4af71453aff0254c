/-! The signal that ends a run, and the endpoints that raise it and see it.

The signal is a level, not an event: once raised it stays raised, and every
endpoint sees it, whenever it was made.  Handles raise the signal, listeners
poll it or wait for it.  A wait is over when the signal is raised or when no
handle is left that could raise it. -/

namespace LoadHarness

/-- The signal with its endpoints.  Endpoints are numbered in the order in which they were made, and
an entry says whether that endpoint is still there. -/
structure Shutdown where
  raised : Bool
  handles : List Bool
  listeners : List Bool
deriving DecidableEq, Repr

namespace Shutdown

/-- A signal that is not raised, with one handle and no listener. -/
def start : Shutdown := ⟨false, [true], []⟩

instance : Inhabited Shutdown := ⟨start⟩

/-- What can be done with an endpoint, named by its number. -/
inductive Action where
  /-- Raise the signal through a handle. -/
  | raise (handle : Nat)
  /-- Ask a handle whether the signal is raised. -/
  | isRaised (handle : Nat)
  /-- Make a listener from a handle. -/
  | listen (handle : Nat)
  | cloneHandle (handle : Nat)
  | dropHandle (handle : Nat)
  /-- Ask a listener whether the signal is raised. -/
  | poll (listener : Nat)
  /-- Ask whether a listener that waits for the signal returns at once. -/
  | wait (listener : Nat)
  | cloneListener (listener : Nat)
  | dropListener (listener : Nat)
deriving DecidableEq, Repr

/-- What an action answers. -/
inductive Answer where
  | done
  | seen (raised : Bool)
  /-- The number of the endpoint that was made. -/
  | made (number : Nat)
deriving DecidableEq, Repr

/-- Whether a handle is still there. -/
def hasHandle (signal : Shutdown) (handle : Nat) : Bool := signal.handles.getD handle false

/-- Whether a listener is still there. -/
def hasListener (signal : Shutdown) (listener : Nat) : Bool := signal.listeners.getD listener false

/-- Whether the endpoint that an action needs is still there. -/
def ready (signal : Shutdown) : Action → Bool
  | .raise handle | .isRaised handle | .listen handle | .cloneHandle handle | .dropHandle handle =>
    signal.hasHandle handle
  | .poll listener | .wait listener | .cloneListener listener | .dropListener listener =>
    signal.hasListener listener

/-- Whether a wait for the signal is over. -/
def waitOver (signal : Shutdown) : Bool := signal.raised || !signal.handles.any id

/-- Take an action whose endpoint is there. -/
def act (signal : Shutdown) : Action → Shutdown × Answer
  | .raise _ => ({ signal with raised := true }, .done)
  | .isRaised _ => (signal, .seen signal.raised)
  | .listen _ =>
    ({ signal with listeners := signal.listeners ++ [true] }, .made signal.listeners.length)
  | .cloneHandle _ =>
    ({ signal with handles := signal.handles ++ [true] }, .made signal.handles.length)
  | .dropHandle handle => ({ signal with handles := signal.handles.set handle false }, .done)
  | .poll _ => (signal, .seen signal.raised)
  | .wait _ => (signal, .seen signal.waitOver)
  | .cloneListener _ =>
    ({ signal with listeners := signal.listeners ++ [true] }, .made signal.listeners.length)
  | .dropListener listener =>
    ({ signal with listeners := signal.listeners.set listener false }, .done)

/-- Take an action; one whose endpoint is gone does nothing. -/
def step (signal : Shutdown) (action : Action) : Shutdown × Answer :=
  if signal.ready action then signal.act action else (signal, .done)

/-- The signal after a list of actions. -/
def after (signal : Shutdown) (actions : List Action) : Shutdown :=
  actions.foldl (fun signal action => (signal.step action).1) signal

/-- The answers to a list of actions. -/
def answers : Shutdown → List Action → List Answer
  | _, [] => []
  | signal, action :: rest => (signal.step action).2 :: answers (signal.step action).1 rest

end Shutdown

end LoadHarness
