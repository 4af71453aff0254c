import LoadHarness.CommandLine.Basic

/-! Writing a command line as arguments.

`settings` lists what a command line says; every value is written behind an
equals sign, so any text can stand there, also an empty one and one that starts
with a dash. -/

namespace LoadHarness.CommandLine

/-- One thing that a command line says. -/
structure Setting where
  flag : Flag
  /-- The value, for a flag that takes one. -/
  value : Option String
deriving DecidableEq, Repr

namespace Setting

/-- The argument that says it, under the given name of the flag. -/
def argumentAs (name : String) (setting : Setting) : String :=
  "--" ++ name ++ match setting.value with
    | some value => "=" ++ value
    | none => ""

/-- The argument that says it. -/
def argument (setting : Setting) : String := setting.argumentAs setting.flag.long

end Setting

/-- Everything that a command line says, the values that have a default included. -/
def settings (line : CommandLine) : List Setting :=
  let value (flag : Flag) (text : Option String) : List Setting :=
    text.toList.map fun text => ⟨flag, some text⟩
  let raised (flag : Flag) (isRaised : Bool) : List Setting :=
    if isRaised then [⟨flag, none⟩] else []
  value .target line.target ++
    value .virtualUsers (line.virtualUsers.map toString) ++
    value .duration (line.duration.map toString) ++
    value .iterations (line.iterations.map toString) ++
    value .pacingMs (line.pacingMs.map toString) ++
    value .ioTimeoutMs (some (toString line.ioTimeoutMs)) ++
    value .tlsMin (line.tlsMin.map (·.name)) ++
    value .tlsMax (line.tlsMax.map (·.name)) ++
    line.cipherSuites.map (fun suite => ⟨.cipherSuite, some suite⟩) ++
    raised .insecure line.insecure ++
    raised .noProgress line.noProgress ++
    value .reporter (some line.reporter.name) ++
    value .runId line.runId

/-- A command line as arguments. -/
def arguments (line : CommandLine) : List String := line.settings.map (·.argument)

end LoadHarness.CommandLine
