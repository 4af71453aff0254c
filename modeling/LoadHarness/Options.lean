import LoadHarness.CommandLine.Basic
import LoadHarness.Duration

/-! The options of a run: what the command line says over what the scenario provides.

`resolve` merges the two and accepts the result, or reports the first thing
wrong: first with the merge, then with the options themselves. -/

namespace LoadHarness

/-- Everything that shapes a run, fixed once it has started. -/
structure Options where
  virtualUsers : Nat
  duration : Duration
  /-- The most iterations of each virtual user. -/
  iterations : Option Nat
  /-- The delay between two iterations of a virtual user. -/
  pacing : Option Duration
  /-- The limit on each connect, read, write and handshake. -/
  ioTimeout : Duration
  tls : Tls.Policy
  target : Option String
  runId : String
  noProgress : Bool
  reporter : ReporterChoice
deriving DecidableEq

/-- Why the options of a run are refused. -/
inductive ConfigError where
  | noDuration
  | anyCombined
  | noVirtualUsers
  | zeroDuration
  | zeroIterations
  | zeroIoTimeout
  | tls (error : Tls.PolicyError)
deriving DecidableEq, Repr

def ConfigError.message : ConfigError → String
  | noDuration => "No duration configured, pass --duration or set a scenario default"
  | anyCombined => "The cipher suite [any] cannot be combined with other cipher suites"
  | noVirtualUsers => "At least one virtual user is required"
  | zeroDuration => "The run duration must be greater than zero"
  | zeroIterations => "The iteration cap must be greater than zero"
  | zeroIoTimeout => "The I/O timeout must be greater than zero"
  | tls error => "Invalid TLS policy: " ++ error.message

/-- What a scenario provides where the command line is silent. -/
structure Defaults where
  target : Option String
  /-- In seconds. -/
  duration : Option Nat
  pacing : Option Duration
  tls : Tls.Policy
deriving DecidableEq

/-- A scenario that provides nothing. -/
def Defaults.none : Defaults := ⟨.none, .none, .none, .standard⟩

/-- The suites that the flags name.  The word `any`, in letters of either case, stands alone. -/
def suitesOfFlags (values : List String) : Except ConfigError Tls.CipherSuites :=
  let any := values.any fun value => value.map Char.toLower == "any"
  if any && 1 < values.length then .error .anyCombined
  else if any then .ok .any
  else .ok (.only (.ofList values))

namespace Options

/-- Accept options, or report the first thing wrong with them. -/
def validate (options : Options) : Except ConfigError Unit :=
  if options.virtualUsers = 0 then .error .noVirtualUsers
  else if options.duration.isZero then .error .zeroDuration
  else if options.iterations = some 0 then .error .zeroIterations
  else if options.ioTimeout.isZero then .error .zeroIoTimeout
  else match options.tls.validate with
    | .ok () => .ok ()
    | .error e => .error (.tls e)

/-- The delay between iterations: none where either side says zero. -/
def mergePacing (line : Option Nat) (default : Option Duration) : Option Duration :=
  match line with
  | some 0 => none
  | some ms => some (.ofMillis ms)
  | none => default.filter fun pacing => !pacing.isZero

/-- The suites that the flags name, or those of the scenario where there is no such flag. -/
def mergeSuites (flags : List String) (default : Tls.CipherSuites) :
    Except ConfigError Tls.CipherSuites :=
  if flags.isEmpty then .ok default else suitesOfFlags flags

/-- The command line over the defaults, not yet validated.  A run that is given no id has
`freshId`. -/
def merge (line : CommandLine) (defaults : Defaults) (freshId : String) :
    Except ConfigError Options :=
  match line.duration.or defaults.duration with
  | none => .error .noDuration
  | some duration =>
    match mergeSuites line.cipherSuites defaults.tls.suites with
    | .error e => .error e
    | .ok suites => .ok {
        virtualUsers := line.virtualUsers.getD 1
        duration := .ofSecs duration
        iterations := line.iterations
        pacing := mergePacing line.pacingMs defaults.pacing
        ioTimeout := .ofMillis line.ioTimeoutMs
        tls :=
          { min := line.tlsMin.getD defaults.tls.min
            max := line.tlsMax.getD defaults.tls.max
            suites := suites
            insecure := defaults.tls.insecure || line.insecure }
        target := line.target.or defaults.target
        runId := line.runId.getD freshId
        noProgress := line.noProgress
        reporter := line.reporter }

/-- The options of a run, or the first thing wrong with them. -/
def resolve (line : CommandLine) (defaults : Defaults) (freshId : String) :
    Except ConfigError Options :=
  match merge line defaults freshId with
  | .error e => .error e
  | .ok options =>
    match options.validate with
    | .error e => .error e
    | .ok () => .ok options

end Options

/-! ## Ids for runs that are given none -/

namespace RunId

/-- The letters of an id. -/
def alphabet : List Char :=
  "_-0123456789abcdefghijklmnopqrstuvwxyzABCDEFGHIJKLMNOPQRSTUVWXYZ".toList

/-- The number of letters in an id. -/
def size : Nat := 21

/-- The id of a list of draws, one for each letter. -/
def ofDraws (draws : List Nat) : String :=
  String.ofList ((List.range size).map fun n =>
    alphabet.getD (draws.getD n 0 % alphabet.length) '_')

end RunId

end LoadHarness
