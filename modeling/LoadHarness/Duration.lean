/-! Lengths of time, counted in nanoseconds.

Whole units are cut, never rounded: a duration of `1999` nanoseconds has one
microsecond.  `render` writes a duration in the largest unit that leaves a
whole part, with as many digits after the point as are not zero. -/

namespace LoadHarness

/-- A length of time. -/
structure Duration where
  nanos : Nat
deriving DecidableEq, Repr

namespace Duration

def zero : Duration := ⟨0⟩

instance : Inhabited Duration := ⟨zero⟩

def ofSecs (n : Nat) : Duration := ⟨n * 1000000000⟩

def ofMillis (n : Nat) : Duration := ⟨n * 1000000⟩

/-- Whole seconds. -/
def secs (d : Duration) : Nat := d.nanos / 1000000000

/-- Whole milliseconds. -/
def millis (d : Duration) : Nat := d.nanos / 1000000

/-- Whole microseconds. -/
def micros (d : Duration) : Nat := d.nanos / 1000

def isZero (d : Duration) : Bool := d.nanos == 0

@[simp] theorem secs_ofSecs (n : Nat) : (ofSecs n).secs = n := by
  simp [secs, ofSecs]

@[simp] theorem millis_ofMillis (n : Nat) : (ofMillis n).millis = n := by
  simp [millis, ofMillis]

/-- The digits of `part` as `width` places after the point, less the zeros at their end. -/
def fraction (width part : Nat) : List Char :=
  let digits := Nat.toDigits 10 part
  let padded := List.replicate (width - digits.length) '0' ++ digits
  (padded.reverse.dropWhile (· == '0')).reverse

/-- `whole` and `part`, counted in `unit` parts to the whole, as a decimal number with a unit. -/
def decimal (whole width part : Nat) (unit : String) : String :=
  match fraction width part with
  | [] => toString whole ++ unit
  | digits => toString whole ++ "." ++ String.ofList digits ++ unit

/-- The text of a duration, such as `1.5s`, `250ms`, `7µs` or `12ns`. -/
def render (d : Duration) : String :=
  if 1000000000 ≤ d.nanos then
    decimal (d.nanos / 1000000000) 9 (d.nanos % 1000000000) "s"
  else if 1000000 ≤ d.nanos then decimal (d.nanos / 1000000) 6 (d.nanos % 1000000) "ms"
  else if 1000 ≤ d.nanos then decimal (d.nanos / 1000) 3 (d.nanos % 1000) "µs"
  else decimal d.nanos 0 0 "ns"

end Duration

end LoadHarness
