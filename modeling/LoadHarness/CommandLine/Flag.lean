/-! The flags of a scenario's command line: how they are spelt and what help says of them. -/

namespace LoadHarness.CommandLine

/-- The flags of a scenario's command line. -/
inductive Flag where
  | target
  | virtualUsers
  | duration
  | iterations
  | pacingMs
  | ioTimeoutMs
  | tlsMin
  | tlsMax
  | cipherSuite
  | insecure
  | noProgress
  | reporter
  | runId
  | help
deriving DecidableEq, Repr

namespace Flag

/-- Every flag, in the order in which help lists them. -/
def all : List Flag := [target, virtualUsers, duration, iterations, pacingMs, ioTimeoutMs, tlsMin,
  tlsMax, cipherSuite, insecure, noProgress, reporter, runId, help]

/-- The name after the two dashes. -/
def long : Flag → String
  | target => "target"
  | virtualUsers => "virtual-users"
  | duration => "duration"
  | iterations => "iterations"
  | pacingMs => "pacing-ms"
  | ioTimeoutMs => "io-timeout-ms"
  | tlsMin => "tls-min"
  | tlsMax => "tls-max"
  | cipherSuite => "tls-cipher-suite"
  | insecure => "insecure-skip-tls-verify"
  | noProgress => "no-progress"
  | reporter => "reporter"
  | runId => "run-id"
  | help => "help"

/-- Another name that is read like the first and never shown. -/
def alias? : Flag → Option String
  | virtualUsers => some "agents"
  | _ => none

/-- The letter after a single dash. -/
def short? : Flag → Option Char
  | target => some 't'
  | runId => some 'r'
  | help => some 'h'
  | _ => none

/-- What stands for the value, for a flag that takes one. -/
def placeholder? : Flag → Option String
  | target => some "TARGET"
  | virtualUsers => some "VIRTUAL_USERS"
  | duration => some "DURATION"
  | iterations => some "ITERATIONS"
  | pacingMs => some "PACING_MS"
  | ioTimeoutMs => some "IO_TIMEOUT_MS"
  | tlsMin => some "TLS_MIN"
  | tlsMax => some "TLS_MAX"
  | cipherSuite => some "TLS_CIPHER_SUITES"
  | reporter => some "REPORTER"
  | runId => some "RUN_ID"
  | insecure | noProgress | help => none

def takesValue (flag : Flag) : Bool := flag.placeholder?.isSome

/-- Whether a flag may stand more than once. -/
def repeatable : Flag → Bool
  | cipherSuite => true
  | _ => false

/-- How a flag is shown. -/
def display (flag : Flag) : String :=
  "--" ++ flag.long ++ match flag.placeholder? with
    | some placeholder => " <" ++ placeholder ++ ">"
    | none => ""

/-- The flag with this name after two dashes. -/
def ofLong? (name : String) : Option Flag :=
  all.find? fun flag => flag.long == name || flag.alias? == some name

/-- The flag with this letter after one dash. -/
def ofShort? (letter : Char) : Option Flag := all.find? (·.short? == some letter)

end Flag

end LoadHarness.CommandLine
