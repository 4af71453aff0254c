import LoadHarness.Check.Counts
import LoadHarness.Names.Map
import LoadHarness.Operation

/-! The rows of the two tables that close a run.

`operationRows` groups operations by their name.  A row counts all of its
operations and the failed ones among them; the average is taken over all that
have a duration, the least and the greatest over the successful ones that have. -/

namespace LoadHarness.Report

/-- One row of the table of checks. -/
structure CheckRow where
  check : String
  counts : CheckCounts

/-- The rows of a map of checks, in order of their names. -/
def checkRows (checks : NameMap CheckCounts) : List CheckRow :=
  checks.entries.map fun (check, counts) => ⟨check, counts⟩

/-- One row of the table of operations. -/
structure OperationRow where
  id : String
  total : Nat
  errors : Nat
  /-- Whole microseconds of every operation that has a duration. -/
  timed : List Nat
  /-- The least time of a successful operation, in whole microseconds. -/
  min? : Option Nat
  /-- The greatest time of a successful operation, in whole microseconds. -/
  max? : Option Nat
deriving DecidableEq, Repr

/-- Whole microseconds of those operations that have a duration. -/
def micros (operations : List Operation) : List Nat :=
  operations.filterMap fun operation => operation.duration.map (·.micros)

/-- The row of operations that share a name. -/
def operationRow (id : String) (operations : List Operation) : OperationRow :=
  let succeeded := micros (operations.filter fun operation => !operation.failed)
  { id := id
    total := operations.length
    errors := operations.countP (·.failed)
    timed := micros operations
    min? := succeeded.min?
    max? := succeeded.max? }

/-- Operations by name, each name's in the order in which they were recorded. -/
def groupById (operations : List Operation) : NameMap (List Operation) :=
  operations.foldr (fun operation map =>
    map.alter operation.id fun group => operation :: group.getD []) .empty

/-- A row for each name, in order of the names. -/
def operationRows (operations : List Operation) : List OperationRow :=
  (groupById operations).entries.map fun (id, group) => operationRow id group

end LoadHarness.Report
