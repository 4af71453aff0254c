import LoadHarness.Failure.Net

/-! Failures of a hook: a cause, what it was caused by in turn, and what was said about it.

A `Failure` is a root cause with layers of context around it.  Its `chain` reads
from the outermost layer to the innermost source.  Three renderings of the
chain are in use: the outermost message alone, all messages on one line, and a
report with the causes indented below the first message. -/

namespace LoadHarness

/-- A failure of the network, less the fault behind it. -/
inductive Carrier where
  | connect (address : String)
  | io
deriving DecidableEq, Repr

/-- The failure with this fault behind it. -/
def Carrier.over : Carrier → IoFault → NetError
  | connect address, fault => .connect address fault
  | io, fault => .io fault

/-- What can go wrong in a hook, with what caused it. -/
inductive Cause where
  /-- A plain message. -/
  | text (message : String)
  /-- A message about another cause. -/
  | wrapping (message : String) (source : Cause)
  | net (error : NetError)
  /-- A failure of the network with another cause behind it, in the guise of a fault. -/
  | carried (carrier : Carrier) (inner : Cause)
  /-- The virtual user gives up. -/
  | bail (message : String)
  /-- The work was cut short because the run is stopping. -/
  | shutdown
  /-- The configuration of the run is refused. -/
  | config (message : String)
  /-- Another cause in the guise of an input or output fault: it reads like that cause and takes its
  place, so that only the sources of that cause are left in the chain. -/
  | disguised (inner : Cause)
deriving DecidableEq, Repr

/-- One entry of a chain: its message and, if the entry is a failure of the network, its class. -/
structure Link where
  message : String
  «class» : Option NetClass
deriving DecidableEq, Repr

namespace Cause

/-- What a bailing virtual user says when it gives no reason. -/
def defaultBail : Cause := bail "Virtual user is bailing"

/-- What is said of work that the end of the run cut short. -/
def shutdownMessage : String := "Execution cancelled by shutdown signal"

def message : Cause → String
  | text message => message
  | wrapping message _ => message
  | net error => error.message
  | carried carrier inner => (carrier.over (.custom .other inner.message)).message
  | bail message => message
  | shutdown => shutdownMessage
  | config message => message
  | disguised inner => inner.message

/-- The failure of the network that a cause is, if it is one. -/
def netError? : Cause → Option NetError
  | net error => some error
  | carried carrier inner => some (carrier.over (.custom .other inner.message))
  | _ => none

/-- The entry that a cause makes in a chain. -/
def link (cause : Cause) : Link := ⟨cause.message, cause.netError?.map (·.class)⟩

/-- The sources of a cause, nearest first. -/
def sources : Cause → List Link
  | wrapping _ source => source.link :: source.sources
  | net error => error.source?.toList.map fun fault => ⟨fault.message, none⟩
  | carried _ inner => ⟨inner.message, none⟩ :: inner.sources
  | disguised inner => inner.sources
  | _ => []

/-- A cause and its sources, outermost first. -/
def chain (cause : Cause) : List Link := cause.link :: cause.sources

end Cause

/-- What a layer of context says about the failure inside it. -/
inductive Context where
  | text (message : String)
  | bail (message : String)
  | shutdown
  | net (error : NetError)
deriving DecidableEq, Repr

def Context.message : Context → String
  | text message => message
  | bail message => message
  | shutdown => Cause.shutdownMessage
  | net error => error.message

/-- The failure of a hook. -/
structure Failure where
  root : Cause
  /-- The layers around the root, innermost first. -/
  layers : List Context
deriving DecidableEq, Repr

namespace Failure

def ofCause (root : Cause) : Failure := ⟨root, []⟩

/-- A failure that is a plain message. -/
def ofText (message : String) : Failure := ofCause (.text message)

def ofNet (error : NetError) : Failure := ofCause (.net error)

/-- Say something more about a failure. -/
def context (failure : Failure) (layer : Context) : Failure :=
  ⟨failure.root, failure.layers ++ [layer]⟩

/-- Every entry of a failure, outermost layer first and innermost source last.  A layer is an entry
without a class, also where its value is a failure of the network. -/
def chain (failure : Failure) : List Link :=
  failure.layers.reverse.map (fun layer => ⟨layer.message, none⟩) ++ failure.root.chain

/-- The messages of the chain. -/
def messages (failure : Failure) : List String := failure.chain.map (·.message)

/-- The outermost message. -/
def message (failure : Failure) : String := failure.messages.headD ""

/-- The chain on one line. -/
def inline (failure : Failure) : String := ": ".intercalate failure.messages

/-- The lines of one cause in a report.  The first line carries the cause's number when there are
several causes, and the others are indented as far. -/
def causeLines (number : Option Nat) (message : String) : List String :=
  let (first, rest) := match number with
    | none => ("    ", "    ")
    | some n =>
      let digits := toString n
      (String.ofList (List.replicate (5 - digits.length) ' ') ++ digits ++ ": ", "       ")
  match message.splitOn "\n" with
  | [] => [first]
  | line :: lines => (first ++ line) :: lines.map (rest ++ ·)

/-- The outermost message and below it, indented, what caused it. -/
def report (failure : Failure) : String :=
  match failure.messages with
  | [] => ""
  | [message] => message
  | [message, cause] =>
    message ++ "\n\nCaused by:\n" ++ "\n".intercalate (causeLines none cause)
  | message :: causes =>
    message ++ "\n\nCaused by:\n" ++
      "\n".intercalate (causes.zipIdx.flatMap fun (cause, n) => causeLines (some n) cause)

end Failure

end LoadHarness
