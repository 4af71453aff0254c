import LoadHarness.Check.Counts
import LoadHarness.Names.Map

/-! What is left of a run when it is over. -/

namespace LoadHarness

/-- The version of the harness, which requests and summaries name. -/
def version : String := "0.1.0-dev.0"

/-- The summary of a run. -/
structure Summary where
  runId : String
  scenarioName : String
  /-- When the run started, in seconds since the beginning of 1970. -/
  startedAt : Int
  /-- How long the run was meant to last, in seconds. -/
  runDuration : Nat
  /-- Virtual users that were started. -/
  virtualUsers : Nat
  /-- Virtual users that neither failed in their setup nor bailed. -/
  virtualUserEndCount : Nat
  /-- Iterations that ran to completion, successful or not. -/
  iterations : Nat
  /-- Iterations that failed, by the class of their failure. -/
  failedIterations : NameMap Nat
  checks : NameMap CheckCounts
  connectionsOpened : Nat
  connectionsClosed : Nat
  /-- Settings that shaped the run. -/
  settings : NameMap String
  /-- The version of the harness. -/
  version : String
deriving DecidableEq

namespace Summary

/-- A summary of a run in which nothing has happened. -/
def start (runId scenarioName : String) (startedAt : Int) (runDuration virtualUsers : Nat)
    (version : String) : Summary where
  runId := runId
  scenarioName := scenarioName
  startedAt := startedAt
  runDuration := runDuration
  virtualUsers := virtualUsers
  virtualUserEndCount := 0
  iterations := 0
  failedIterations := .empty
  checks := .empty
  connectionsOpened := 0
  connectionsClosed := 0
  settings := .empty
  version := version

/-- Put a setting in, in place of an earlier one of that name. -/
def addSetting (summary : Summary) (name value : String) : Summary :=
  { summary with settings := summary.settings.insert name value }

/-- Connections that were never closed: none if the run ended cleanly. -/
def openConnections (summary : Summary) : Nat :=
  summary.connectionsOpened - summary.connectionsClosed

/-- Failed iterations of every class together. -/
def totalFailed (summary : Summary) : Nat := 
  summary.failedIterations.values.foldr (· + ·) 0

end Summary

end LoadHarness
