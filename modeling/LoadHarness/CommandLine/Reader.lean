import LoadHarness.CommandLine.Basic
import LoadHarness.CommandLine.Help
import LoadHarness.Text.Terminal

/-! Reading a command line, argument by argument.

`--name=value`, `--name value`, `-nvalue`, `-n=value` and `-n value` give a flag
its value; `--name` and `-n` raise a flag that takes none.  A flag whose value
may be the next argument is held back, and is judged when another flag of the
list is complete or the arguments end; an argument that no flag asks for is
refused on the spot, before what is held back is judged.  After `--` nothing is
asked for any more. -/

namespace LoadHarness.CommandLine

/-- What has been read of a command line. -/
structure Reading where
  line : CommandLine
  /-- The flags that stand already. -/
  given : List Flag
  /-- A flag that is held back, with its value once that is read. -/
  held : Option (Flag × Option String)
  /-- Whether a value is what the held flag waits for. -/
  waiting : Bool

namespace Reading

def start : Reading := ⟨.empty, [], none, false⟩

/-- Judge a flag that is complete: first that it has the value it takes, then that it does not
stand already, then the value itself. -/
def complete (reading : Reading) (flag : Flag) (value : Option String) :
    Except UsageError Reading :=
  if flag.takesValue && value.isNone then .error (.missingValue flag)
  else if !flag.repeatable && reading.given.contains flag then .error (.repeated flag)
  else
    match value with
    | some value =>
      match reading.line.set flag value with
      | .ok line => .ok { reading with line := line, given := flag :: reading.given }
      | .error e => .error e
    | none => .ok { reading with line := reading.line.raise flag, given := flag :: reading.given }

/-- Judge the flag that is held back, if there is one. -/
def release (reading : Reading) : Except UsageError Reading :=
  match reading.held with
  | none => .ok reading
  | some (flag, value) => { reading with held := none, waiting := false }.complete flag value

/-- Judge what is held back and then a flag that is complete. -/
def give (reading : Reading) (flag : Flag) (value : Option String) : Except UsageError Reading := do
  (← reading.release).complete flag value

/-- Judge what is held back and hold a flag back until its value is read. -/
def hold (reading : Reading) (flag : Flag) : Except UsageError Reading := do
  return { ← reading.release with held := some (flag, none), waiting := true }

/-- Give the value that the held flag waits for. -/
def supply (reading : Reading) (value : String) : Reading :=
  { reading with held := reading.held.map fun (flag, _) => (flag, some value), waiting := false }

/-- Read a flag by name, with the value written behind an equals sign if there is one. -/
def readLong (reading : Reading) (name : String) (value : Option String) :
    Except UsageError Reading :=
  match Flag.ofLong? name with
  | none => .error (.unexpectedArgument ("--" ++ name))
  | some flag =>
    if flag.takesValue then
      match value with
      | some _ => reading.give flag value
      | none => reading.hold flag
    else
      match value with
      | some value => .error (.unexpectedValue flag value)
      | none =>
        match flag with
        | .help => do let _ ← reading.release; .error (.help true)
        | flag => reading.give flag none

/-- Read flags by letter.  The first that takes a value has the rest of the letters for it, less an
equals sign in front. -/
def readShort (reading : Reading) : List Char → Except UsageError Reading
  | [] => .ok reading
  | letter :: rest =>
    match Flag.ofShort? letter with
    | none => .error (.unexpectedArgument ("-" ++ letter.toString))
    | some flag =>
      if flag.takesValue then
        match rest with
        | [] => reading.hold flag
        | '=' :: value => reading.give flag (some (String.ofList value))
        | value => reading.give flag (some (String.ofList value))
      else
        match flag with
        | .help => do let _ ← reading.release; .error (.help false)
        | flag => do (← reading.give flag none).readShort rest

/-- Split at the first equals sign. -/
def splitAtEquals (text : List Char) : String × Option String :=
  let name := String.ofList (text.takeWhile (· != '='))
  match text.dropWhile (· != '=') with
  | [] => (name, none)
  | _ :: value => (name, some (String.ofList value))

/-- Read an argument that is not `--`. -/
def readArgument (reading : Reading) (argument : String) : Except UsageError Reading :=
  match argument.toList with
  | '-' :: '-' :: name =>
    let (name, value) := splitAtEquals name
    reading.readLong name value
  | '-' :: letter :: rest => reading.readShort (letter :: rest)
  | _ =>
    if reading.waiting then .ok (reading.supply argument)
    else .error (.unexpectedArgument argument)

/-- Read what is left of the arguments. -/
def readAll (reading : Reading) : List String → Except UsageError CommandLine
  | [] => do return (← reading.release).line
  | ["--"] => do return (← reading.release).line
  | "--" :: argument :: _ => .error (.unexpectedArgument argument)
  | argument :: rest =>
    match reading.readArgument argument with
    | .ok reading => reading.readAll rest
    | .error e => .error e

end Reading

/-- Read the arguments of a scenario. -/
def parse (arguments : List String) : Except UsageError CommandLine :=
  Reading.start.readAll arguments

end LoadHarness.CommandLine

namespace LoadHarness.CommandLine.UsageError

open Text.Terminal (plain bold yellow boldRed)

/-- The argument that an error is about. -/
def argument? : UsageError → Option String
  | unexpectedArgument argument => some argument
  | missingValue flag | repeated flag | unreadable flag _ _ | notAChoice flag _
  | unexpectedValue flag _ => some flag.display
  | help _ => none

/-- The value that an error is about. -/
def value? : UsageError → Option String
  | missingValue _ => some ""
  | unreadable _ value _ | notAChoice _ value | unexpectedValue _ value => some value
  | unexpectedArgument _ | repeated _ | help _ => none

/-- A fault as it is shown on a terminal. -/
def explain (fault : String) : String :=
  boldRed "error:" ++ " " ++ fault ++ "\n\nFor more information, try '" ++ bold "--help" ++ "'.\n"

/-- What is said about an error on a terminal, with every argument and value emphasised.  Where a
value is also part of the reason, its own escape sequences may reach into what follows that. -/
def styled : UsageError → String
  | unexpectedArgument argument => explain ("unexpected argument '" ++ yellow argument ++ "' found")
  | missingValue flag =>
    explain ("a value is required for '" ++ yellow flag.display ++ "' but none was supplied")
  | repeated flag =>
    explain ("the argument '" ++ yellow flag.display ++ "' cannot be used multiple times")
  | unreadable flag value reason =>
    explain ("invalid value '" ++ yellow value ++ "' for '" ++ bold flag.display ++ "': " ++ reason)
  | notAChoice flag value =>
    explain ("invalid value '" ++ yellow value ++ "' for '" ++ bold flag.display ++ "'")
  | unexpectedValue flag value =>
    explain ("unexpected value '" ++ yellow value ++ "' for '" ++ bold flag.display ++
      "' found; no more were expected")
  | help long => helpText long

/-- The first line of a text. -/
def firstLine (text : String) : String :=
  let first := text.toList.takeWhile (· != '\n')
  String.ofList (match first.reverse with
    | '\x0d' :: rest => rest.reverse
    | _ => first)

/-- The first line of what is said about an error; all of it where that is help. -/
def message : UsageError → String
  | help long => helpText long
  | error => firstLine (plain error.styled)

end LoadHarness.CommandLine.UsageError
