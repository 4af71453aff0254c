import LoadHarness.CommandLine.Flag
import LoadHarness.Text.Number
import LoadHarness.Tls.Policy

/-! What a scenario's command line says, and why one may be refused. -/

namespace LoadHarness

/-- What becomes of the operations of a run. -/
inductive ReporterChoice where
  /-- Tables of checks and operations are printed when the run finishes. -/
  | inMemory
  /-- Nothing is reported. -/
  | noop
deriving DecidableEq, Repr

def ReporterChoice.name : ReporterChoice → String
  | inMemory => "in-memory"
  | noop => "noop"

/-- The choice with this name. -/
def ReporterChoice.ofName? (name : String) : Option ReporterChoice :=
  [inMemory, noop].find? (·.name == name)

/-- The values of a scenario's command line. -/
structure CommandLine where
  target : Option String
  virtualUsers : Option Nat
  /-- In seconds. -/
  duration : Option Nat
  iterations : Option Nat
  pacingMs : Option Nat
  ioTimeoutMs : Nat
  tlsMin : Option Tls.Version
  tlsMax : Option Tls.Version
  cipherSuites : List String
  insecure : Bool
  noProgress : Bool
  reporter : ReporterChoice
  runId : Option String
deriving DecidableEq

namespace CommandLine

/-- The command line that says nothing. -/
def empty : CommandLine where
  target := none
  virtualUsers := none
  duration := none
  iterations := none
  pacingMs := none
  ioTimeoutMs := 10000
  tlsMin := none
  tlsMax := none
  cipherSuites := []
  insecure := false
  noProgress := false
  reporter := .inMemory
  runId := none

instance : Inhabited CommandLine := ⟨empty⟩

/-- Why a command line is refused, or help shown in its place. -/
inductive UsageError where
  /-- An argument that nothing asks for. -/
  | unexpectedArgument (argument : String)
  /-- A flag without the value it takes. -/
  | missingValue (flag : Flag)
  /-- A flag that stands twice and may not. -/
  | repeated (flag : Flag)
  /-- A value that cannot be read, and why. -/
  | unreadable (flag : Flag) (value reason : String)
  /-- A value that is none of the choices. -/
  | notAChoice (flag : Flag) (value : String)
  /-- A value for a flag that takes none. -/
  | unexpectedValue (flag : Flag) (value : String)
  /-- Help was asked for. -/
  | help (long : Bool)
deriving DecidableEq, Repr

/-- Put the value of a flag in. -/
def set (line : CommandLine) (flag : Flag) (value : String) : Except UsageError CommandLine :=
  let number : Except UsageError Nat :=
    match Text.readNumber Text.maxWord value.toList with
    | .ok n => .ok n
    | .error e => .error (.unreadable flag value e.message)
  let version : Except UsageError Tls.Version :=
    match Tls.Version.parse value with
    | .ok v => .ok v
    | .error e => .error (.unreadable flag value e.message)
  match flag with
  | .target => .ok { line with target := some value }
  | .virtualUsers => do return { line with virtualUsers := some (← number) }
  | .duration => do return { line with duration := some (← number) }
  | .iterations => do return { line with iterations := some (← number) }
  | .pacingMs => do return { line with pacingMs := some (← number) }
  | .ioTimeoutMs => do return { line with ioTimeoutMs := ← number }
  | .tlsMin => do return { line with tlsMin := some (← version) }
  | .tlsMax => do return { line with tlsMax := some (← version) }
  | .cipherSuite => .ok { line with cipherSuites := line.cipherSuites ++ [value] }
  | .reporter =>
    match ReporterChoice.ofName? value with
    | some choice => .ok { line with reporter := choice }
    | none => .error (if value = "" then .missingValue flag else .notAChoice flag value)
  | .runId => .ok { line with runId := some value }
  | .insecure | .noProgress | .help => .error (.unexpectedValue flag value)

/-- Raise a flag that takes no value. -/
def raise (line : CommandLine) (flag : Flag) : CommandLine :=
  match flag with
  | .insecure => { line with insecure := true }
  | .noProgress => { line with noProgress := true }
  | _ => line

end CommandLine

end LoadHarness
