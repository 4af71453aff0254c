import LoadHarness.CommandLine.Flag

/-! The help of a scenario's command line, in a short form and a long one.

The short form has the first sentence of each flag and its default beside it;
the long form has every paragraph, set apart by blank lines. -/

namespace LoadHarness.CommandLine

namespace Flag

/-- What help says of a flag, paragraph by paragraph. -/
def about : Flag → List String
  | target => ["A connection string for the service to test, such as \x60127.0.0.1:8080\x60 or " ++
      "\x60https://www.test1.com:8080\x60"]
  | virtualUsers => ["The number of virtual users to run"]
  | duration => ["The number of seconds to run the scenario for"]
  | iterations =>
    ["Stop each virtual user after this many iterations, even if the duration has not elapsed"]
  | pacingMs =>
    ["Delay between iterations of a single virtual user, in milliseconds. Zero disables pacing"]
  | ioTimeoutMs =>
    ["Upper bound for a single connect, read, write or TLS handshake, in milliseconds"]
  | tlsMin => ["The lowest TLS version to offer: tls1.0, tls1.1, tls1.2 or tls1.3"]
  | tlsMax => ["The highest TLS version to offer: tls1.0, tls1.1, tls1.2 or tls1.3"]
  | cipherSuite =>
    ["Allow a cipher suite, by its IANA name. For example " ++
      "\x60--tls-cipher-suite=TLS_RSA_WITH_AES_128_GCM_SHA256\x60.",
      "Use the flag multiple times to allow several suites. Pass \x60any\x60 to allow every suite " ++
      "the TLS library supports."]
  | insecure =>
    ["Skip certificate chain and hostname validation for TLS connections.",
      "Only use this against test endpoints with self-signed certificates."]
  | noProgress =>
    ["Do not show a progress bar on the CLI.",
      "This is recommended for CI/CD environments where the progress bar isn't being looked at by " ++
      "anyone and is just adding noise to the logs."]
  | reporter => ["The reporter to use"]
  | runId => ["Set the ID of this run", "If not set, a random ID is used."]
  | help => []

/-- The default that help shows. -/
def default? : Flag → Option String
  | ioTimeoutMs => some "10000"
  | reporter => some "in-memory"
  | _ => none

/-- The values a flag can have, each with what help says of it, where there are only these. -/
def choices : Flag → List (String × String)
  | reporter =>
    [("in-memory", "Print tables of checks and operations when the run finishes"),
      ("noop", "Report nothing")]
  | _ => []

/-- A flag as the heading of its help. -/
def heading (flag : Flag) : String :=
  (match flag.short? with
    | some letter => "  -" ++ letter.toString ++ ", "
    | none => "      ") ++ flag.display

end Flag

/-- The indentation of what help says of a flag. -/
def indentation : String := "          "

/-- A text without the full stop at its end. -/
def dropStop (text : String) : String :=
  match text.toList.reverse with
  | '.' :: rest => String.ofList rest.reverse
  | _ => text

/-- What the short form says of a flag, on one line. -/
def shortText (flag : Flag) : String :=
  match flag with
  | .help => "Print help (see more with '--help')"
  | _ =>
    let default := match flag.default? with
      | some value => " [default: " ++ value ++ "]"
      | none => ""
    let choices := match flag.choices with
      | [] => ""
      | choices => " [possible values: " ++ ", ".intercalate (choices.map Prod.fst) ++ "]"
    dropStop (flag.about.headD "") ++ default ++ choices

/-- The choices of a flag in the long form, their descriptions in one column. -/
def choiceLines (choices : List (String × String)) : List String :=
  let columns := (choices.map (·.1.length)).foldl max 0
  choices.map fun (value, description) =>
    "- " ++ value ++ ":" ++ String.ofList (List.replicate (columns - value.length) ' ') ++ " " ++
      description

/-- What the long form says of a flag, line by line. -/
def longLines (flag : Flag) : List String :=
  match flag with
  | .help => [indentation ++ "Print help (see a summary with '-h')"]
  | _ =>
    let about := (flag.about.intersperse "").map (indentation ++ ·)
    let choices := match flag.choices with
      | [] => []
      | choices => "" :: ("Possible values:" :: choiceLines choices).map (indentation ++ ·)
    let default := match flag.default? with
      | some value => [indentation, indentation ++ "[default: " ++ value ++ "]"]
      | none => []
    about ++ choices ++ default

/-- The help of a scenario's command line. -/
def helpText (long : Bool) : String :=
  let head := ["The Gale virtual user runner", "", "Usage: scenario [OPTIONS]", "", "Options:"]
  let entry (flag : Flag) : List String :=
    flag.heading :: if long then longLines flag else [indentation ++ shortText flag]
  let entries := Flag.all.map entry
  let body := if long then (entries.intersperse [""]).flatten else entries.flatten
  "\n".intercalate (head ++ body) ++ "\n"

end LoadHarness.CommandLine
