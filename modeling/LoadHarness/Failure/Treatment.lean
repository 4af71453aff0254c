import LoadHarness.Failure.Cause

/-! What a run does about a failed iteration.

A shutdown is not recorded and a bail stops the virtual user; both count only
where they are the root or the value of a context layer.  Every other failure is
recorded under the class of the outermost network failure among the root and
its sources, and as `behaviour` if there is none. -/

namespace LoadHarness

namespace Failure

/-- Whether the root or a context layer is a shutdown. -/
def isShutdown (failure : Failure) : Bool :=
  failure.root == .shutdown || failure.layers.any (· == .shutdown)

/-- Whether the root or a context layer is a bail. -/
def isBail (failure : Failure) : Bool :=
  (match failure.root with | .bail _ => true | _ => false) ||
    failure.layers.any fun layer => match layer with | .bail _ => true | _ => false

/-- Whether the root is a refused configuration. -/
def isConfig (failure : Failure) : Bool :=
  match failure.root with | .config _ => true | _ => false

/-- The class of the outermost network failure in the chain. -/
def netClass? (failure : Failure) : Option NetClass := failure.chain.findSome? (·.class)

end Failure

/-- The treatment of a failed iteration. -/
inductive Treatment where
  /-- The run is stopping: nothing is recorded. -/
  | skip
  /-- The virtual user stops. -/
  | bail
  /-- The iteration is recorded as failed for a reason of the network. -/
  | network («class» : NetClass)
  /-- The iteration is recorded as failed for a reason of its own. -/
  | behaviour
deriving DecidableEq, Repr

namespace Treatment

/-- The name under which an iteration is recorded as failed. -/
def className? : Treatment → Option String
  | skip => none
  | bail => some "bail"
  | network «class» => some «class».name
  | behaviour => some "behaviour"

end Treatment

/-- How a failed iteration is treated. -/
def Failure.treatment (failure : Failure) : Treatment :=
  if failure.isShutdown then .skip
  else if failure.isBail then .bail
  else match failure.netClass? with
    | some «class» => .network «class»
    | none => .behaviour

end LoadHarness
