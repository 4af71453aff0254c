/-! How often one named check passed and failed. -/

namespace LoadHarness

/-- Passed and failed counts of one check. -/
structure CheckCounts where
  passed : Nat
  failed : Nat
deriving DecidableEq, Repr

namespace CheckCounts

def zero : CheckCounts := ⟨0, 0⟩

instance : Inhabited CheckCounts := ⟨zero⟩

/-- Count one evaluation. -/
def add (counts : CheckCounts) (passed : Bool) : CheckCounts :=
  if passed then { counts with passed := counts.passed + 1 }
  else { counts with failed := counts.failed + 1 }

def total (counts : CheckCounts) : Nat := counts.passed + counts.failed

/-- The fraction of evaluations that passed; a check that never ran has none.  Counts are words of
64 bits, each rounded to the nearest float before the division. -/
def passRate? (counts : CheckCounts) : Option Float :=
  if counts.total = 0 then none
  else some (counts.passed.toUInt64.toFloat / counts.total.toUInt64.toFloat)

@[simp] theorem total_add (counts : CheckCounts) (passed : Bool) :
    (counts.add passed).total = counts.total + 1 := by
  cases passed <;> simp [add, total] <;> omega

end CheckCounts

end LoadHarness
