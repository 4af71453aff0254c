import LoadHarness.Net.Host
import LoadHarness.Run.Shared

/-! Work of one party, run by itself from beginning to end on a host. -/

namespace LoadHarness.Run

/-- A party by itself, with the host that answers its requests. -/
structure Bench (σ : Type) where
  shared : Shared
  desk : Desk
  host : σ

namespace Bench

variable {σ α : Type}

/-- The bench of a party that has done nothing yet, with a collector that keeps its operations. -/
def start (party : Party) (host : σ) : Bench σ where
  shared := .start "" (.start 1 false)
  desk := ⟨party, 0, 0⟩
  host := host

/-- Run work to its end; nothing if it waits for what never comes.  No time passes. -/
def run (host : Net.Host σ) : Work α → Bench σ → Option (α × Bench σ)
  | .done value, bench => some (value, bench)
  | .act action next, bench =>
    let outside : Outside := ⟨.zero, fun request => (host.answer bench.host request).1⟩
    let state := match action with
      | .ask request => (host.answer bench.host request).2
      | _ => bench.host
    match bench.shared.perform bench.desk outside action with
    | none => none
    | some (shared, desk, answer) => run host (next answer) ⟨shared, desk, state⟩

/-- The operations recorded so far, oldest first. -/
def operations (bench : Bench σ) : List Operation :=
  bench.shared.reporter.collectors.flatMap (·.operations)

end Bench

end LoadHarness.Run
