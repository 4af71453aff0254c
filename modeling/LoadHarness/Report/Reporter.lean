import LoadHarness.Report.Tables

/-! Collectors of operation records, and the reporter that hands records on to them.

A call to the reporter visits its collectors in order, one visit each, and
other calls may come between two visits.  So a call is a list of visits
(`Reporter.visits`) and the reporter's state is what visits leave behind
(`Reporter.after`), in whatever order they come. -/

namespace LoadHarness.Report

/-- What a collector does with what it is handed. -/
inductive CollectorKind where
  /-- Keep it. -/
  | keep
  /-- Keep it, and print the tables at the end of the run. -/
  | print
deriving DecidableEq, Repr

/-- What a collector is handed. -/
inductive Delivery where
  | operation (operation : Operation)
  /-- The check counts at the end of a run. -/
  | checks (checks : NameMap CheckCounts)
deriving DecidableEq

/-- A collector with all it was handed, newest first. -/
structure Collector where
  kind : CollectorKind
  received : List Delivery
deriving DecidableEq

namespace Collector

/-- The operations a collector was handed, oldest first. -/
def operations (collector : Collector) : List Operation :=
  collector.received.reverse.filterMap fun
    | .operation operation => some operation
    | .checks _ => none

/-- The lines a collector prints when it is handed something. -/
def printedOn (collector : Collector) : Delivery → List String
  | .operation _ => []
  | .checks checks =>
    match collector.kind with
    | .keep => []
    | .print => printed checks collector.operations

def receive (collector : Collector) (delivery : Delivery) : Collector :=
  { collector with received := delivery :: collector.received }

end Collector

/-- One collector being handed one thing. -/
structure Visit where
  /-- The place of the collector among those of the reporter. -/
  collector : Nat
  delivery : Delivery
deriving DecidableEq

/-- The collectors of a run, and the lines printed so far. -/
structure Reporter where
  collectors : List Collector
  printed : List String
deriving DecidableEq

namespace Reporter

/-- A reporter for `keepers` collectors that keep, and one that prints after them if asked. -/
def start (keepers : Nat) (printing : Bool) : Reporter where
  collectors := List.replicate keepers ⟨.keep, []⟩ ++ if printing then [⟨.print, []⟩] else []
  printed := []

instance : Inhabited Reporter := ⟨start 0 false⟩

/-- The visits that make up one call, in order. -/
def visits (reporter : Reporter) (delivery : Delivery) : List Visit :=
  (List.range reporter.collectors.length).map fun n => ⟨n, delivery⟩

/-- The reporter after one visit. -/
def visit (reporter : Reporter) (visit : Visit) : Reporter where
  collectors := reporter.collectors.modify visit.collector (·.receive visit.delivery)
  printed := reporter.printed ++
    ((reporter.collectors[visit.collector]?).map (·.printedOn visit.delivery)).getD []

/-- The reporter after visits in the order given. -/
def after (reporter : Reporter) (visits : List Visit) : Reporter := visits.foldl visit reporter

/-- The reporter after one call that nothing comes between. -/
def deliver (reporter : Reporter) (delivery : Delivery) : Reporter :=
  reporter.after (reporter.visits delivery)

/-- Hand the record of an operation to every collector. -/
def addOperation (reporter : Reporter) (operation : Operation) : Reporter :=
  reporter.deliver (.operation operation)

/-- Hand the final check counts to every collector. -/
def finalize (reporter : Reporter) (checks : NameMap CheckCounts) : Reporter :=
  reporter.deliver (.checks checks)

/-- How a reporter shows itself: by the number of its collectors. -/
def describe (reporter : Reporter) : String :=
  "Reporter \x7b collectors: " ++ toString reporter.collectors.length ++ " \x7d"

end Reporter

end LoadHarness.Report
