import LoadHarness.Report.Rows
import LoadHarness.Text.Fixed
import LoadHarness.Text.Table

/-! The tables of checks and of operations as they are printed.

Rates are percentages and times are milliseconds, both with two places.  A
table without rows is not printed. -/

namespace LoadHarness.Report

/-- Rates and times are shown with two places. -/
def places : Nat := 2

/-- What stands for a number that there is not. -/
def absent : String := "-"

/-- The rate of a row of checks, as a percentage. -/
def percentage (rate : Option Float) : String :=
  match rate with
  | some rate => Text.fixed places (rate * 100.0) ++ "%"
  | none => absent

/-- Milliseconds from whole microseconds, to the nearest float. -/
def millis (micros : Nat) : Float := micros.toUInt64.toFloat / 1000.0

/-- The mean of times that are given in whole microseconds.  Each is turned into a number with
`time`, and they are added to `zero` from left to right; their `count` is taken for one where there
are none. -/
def mean {α : Type} [Add α] [Div α] (zero : α) (time count : Nat → α) (micros : List Nat) : α :=
  (micros.map time).foldl (· + ·) zero / count (max micros.length 1)

/-- The mean of times in milliseconds.  The sum of none is negative zero, which adds nothing to a
number. -/
def average (micros : List Nat) : Float := mean (-0.0) millis (·.toUInt64.toFloat) micros

def time (micros : Option Nat) : String :=
  match micros with
  | some micros => Text.fixed places (millis micros)
  | none => absent

/-- The table of checks. -/
def checkTable (rows : List CheckRow) : Text.Table where
  heading := ["check", "passes", "fails", "pass_rate"]
  rows := rows.map fun row =>
    [row.check, toString row.counts.passed, toString row.counts.failed,
      percentage row.counts.passRate?]

/-- The table of operations. -/
def operationTable (rows : List OperationRow) : Text.Table where
  heading := ["operation_id", "total_operations", "errors", "avg_time_ms", "min_time_ms",
    "max_time_ms"]
  rows := rows.map fun row =>
    [row.id, toString row.total, toString row.errors, Text.fixed places (average row.timed),
      time row.min?, time row.max?]

/-- A table below its title, with an empty line above; nothing if the table has no rows. -/
def titled (title : String) (table : Text.Table) : List String :=
  if table.rows.isEmpty then [] else "" :: title :: table.lines

/-- The lines printed for the checks and operations of a run. -/
def printed (checks : NameMap CheckCounts) (operations : List Operation) : List String :=
  titled "Summary of checks" (checkTable (checkRows checks)) ++
    titled "Summary of operations" (operationTable (operationRows operations))

end LoadHarness.Report
