import LoadHarness.CommandLine.Reader
import LoadHarness.Options
import LoadHarness.Run.Execute
import LoadHarness.Scenario.IdleSleep
import LoadHarness.Scenario.TcpEcho
import LoadHarness.Scenario.TlsProbe
import Std.Time.DateTime.Timestamp

/-! The command line of the harness: the name of a scenario, and the arguments of its run.

The run is carried out on a host without a network.  What the run prints goes to
standard output, and its log to standard error. -/

namespace LoadHarness

/-- How a command ends: with what it says at the end, and its exit status. -/
structure Ending where
  complaint : Option String
  status : UInt32

/-- How the command ends whose run ended so. -/
def Run.Conclusion.ending : Run.Conclusion → Ending
  | .finished _ => ⟨none, 0⟩
  | .failed failure => ⟨some ("Error: " ++ failure.report), 1⟩
  | .crashed users => ⟨some ("Error: " ++ (Run.crashFailure users).report), 1⟩
  | .panicked text => ⟨some text, 101⟩

/-- A fresh id for a run. -/
def RunId.fresh : IO String := do
  let bytes ← IO.getRandomBytes (USize.ofNat RunId.size)
  return RunId.ofDraws (bytes.toList.map (·.toNat))

/-- Carry out a run of a scenario. -/
def Scenario.main {G V : Type} (scenario : Scenario G V) (arguments : List String) : IO UInt32 := do
  match CommandLine.parse arguments with
  | .error (.help long) =>
    IO.print (CommandLine.helpText long)
    return 0
  | .error e =>
    IO.eprintln e.message
    return 2
  | .ok line =>
    let now ← Std.Time.Timestamp.now
    match Run.begin scenario line (← RunId.fresh) now.toSecondsSinceUnixEpoch.val with
    | .error e =>
      IO.eprintln ("Error: " ++ e.message)
      return 1
    | .ok state =>
      let (state, _) := state.execute Net.Offline.host ⟨[], #[]⟩
      for line in state.shared.lines do
        IO.eprintln (line.level.name ++ " " ++ line.message)
      for line in state.shared.reporter.printed do
        IO.println line
      match state.conclusion? with
      | none => return 1
      | some conclusion =>
        if let some complaint := conclusion.ending.complaint then
          IO.eprintln complaint
        return conclusion.ending.status

end LoadHarness

open LoadHarness in
/-- Run the scenario that the first argument names. -/
def main (arguments : List String) : IO UInt32 :=
  match arguments with
  | "tcp_echo" :: rest => TcpEcho.scenario.main rest
  | "tls_probe" :: rest => TlsProbe.scenario.main rest
  | "idle_sleep" :: rest => IdleSleep.scenario.main rest
  | _ => do
    IO.eprintln "Name a scenario: tcp_echo, tls_probe or idle_sleep"
    return 2
