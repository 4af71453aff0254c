import LoadHarness.Check.Counts
import LoadHarness.Check.Recorder
import LoadHarness.CommandLine.Basic
import LoadHarness.CommandLine.Flag
import LoadHarness.CommandLine.Help
import LoadHarness.CommandLine.Reader
import LoadHarness.CommandLine.Writer
import LoadHarness.Domain.Direction
import LoadHarness.Domain.DirectionTable
import LoadHarness.Domain.Label
import LoadHarness.Domain.Mapping
import LoadHarness.Domain.MappingTable
import LoadHarness.Domain.Punycode
import LoadHarness.Duration
import LoadHarness.Failure.Cause
import LoadHarness.Failure.Io
import LoadHarness.Failure.Net
import LoadHarness.Failure.Treatment
import LoadHarness.Ledger
import LoadHarness.Ledger.Audit
import LoadHarness.Main
import LoadHarness.Names.Map
import LoadHarness.Names.Set
import LoadHarness.Net.Address
import LoadHarness.Net.Client
import LoadHarness.Net.Host
import LoadHarness.Net.Https
import LoadHarness.Net.Request
import LoadHarness.Net.Tcp
import LoadHarness.Operation
import LoadHarness.Options
import LoadHarness.Phase
import LoadHarness.Proofs.Check.Sorting
import LoadHarness.Proofs.Check.Tally
import LoadHarness.Proofs.CommandLine.Version
import LoadHarness.Proofs.CommandLine.Writer
import LoadHarness.Proofs.Failure.Chain
import LoadHarness.Proofs.Faults
import LoadHarness.Proofs.Histories
import LoadHarness.Proofs.Ledger.Audit
import LoadHarness.Proofs.Names.Map
import LoadHarness.Proofs.Names.Set
import LoadHarness.Proofs.Net.Https
import LoadHarness.Proofs.Net.Lifecycle
import LoadHarness.Proofs.Net.Suites
import LoadHarness.Proofs.Options
import LoadHarness.Proofs.Options.Flags
import LoadHarness.Proofs.Report.Reporter
import LoadHarness.Proofs.Report.Rows
import LoadHarness.Proofs.Report.Traffic
import LoadHarness.Proofs.Run.Accounting
import LoadHarness.Proofs.Run.Actions
import LoadHarness.Proofs.Run.Alike
import LoadHarness.Proofs.Run.Books
import LoadHarness.Proofs.Run.Calls
import LoadHarness.Proofs.Run.Checks
import LoadHarness.Proofs.Run.Commutation
import LoadHarness.Proofs.Run.Connections
import LoadHarness.Proofs.Run.Draining
import LoadHarness.Proofs.Run.Ending
import LoadHarness.Proofs.Run.Given
import LoadHarness.Proofs.Run.Holding
import LoadHarness.Proofs.Run.Hooks
import LoadHarness.Proofs.Run.Independence
import LoadHarness.Proofs.Run.Interleaving
import LoadHarness.Proofs.Run.Isolation
import LoadHarness.Proofs.Run.Life
import LoadHarness.Proofs.Run.Lockstep
import LoadHarness.Proofs.Run.Notices
import LoadHarness.Proofs.Run.Outcome
import LoadHarness.Proofs.Run.Phases
import LoadHarness.Proofs.Run.Progress
import LoadHarness.Proofs.Run.Protocol
import LoadHarness.Proofs.Run.Readings
import LoadHarness.Proofs.Run.Reporting
import LoadHarness.Proofs.Run.Settings
import LoadHarness.Proofs.Run.Setup
import LoadHarness.Proofs.Run.Shuffle
import LoadHarness.Proofs.Run.Solo
import LoadHarness.Proofs.Run.Stages
import LoadHarness.Proofs.Run.Step
import LoadHarness.Proofs.Run.Summary
import LoadHarness.Proofs.Run.Totals
import LoadHarness.Proofs.Run.Trace
import LoadHarness.Proofs.Run.Transition
import LoadHarness.Proofs.Run.Treatment
import LoadHarness.Proofs.Run.Users
import LoadHarness.Proofs.Run.Visits
import LoadHarness.Proofs.Scenario.Actions
import LoadHarness.Proofs.Scenario.Echo
import LoadHarness.Proofs.Scenario.Replies
import LoadHarness.Proofs.Scenario.Requests
import LoadHarness.Proofs.Shuffles
import LoadHarness.Proofs.Shutdown
import LoadHarness.Proofs.Text.Number
import LoadHarness.Proofs.Text.Utf8
import LoadHarness.Proofs.Tls.Validation
import LoadHarness.Proofs.Tls.Version
import LoadHarness.Report.Reporter
import LoadHarness.Report.Rows
import LoadHarness.Report.Tables
import LoadHarness.Report.Traffic
import LoadHarness.Run.Bench
import LoadHarness.Run.Conclusion
import LoadHarness.Run.Execute
import LoadHarness.Run.Hook
import LoadHarness.Run.Shared
import LoadHarness.Run.State
import LoadHarness.Run.User
import LoadHarness.Scenario.IdleSleep
import LoadHarness.Scenario.Network
import LoadHarness.Scenario.NetworkScript
import LoadHarness.Scenario.Script
import LoadHarness.Scenario.TcpEcho
import LoadHarness.Scenario.TlsProbe
import LoadHarness.Shutdown
import LoadHarness.Summary
import LoadHarness.Text.CodeTable
import LoadHarness.Text.Columns
import LoadHarness.Text.Composition
import LoadHarness.Text.CompositionTable
import LoadHarness.Text.Emoji
import LoadHarness.Text.EmojiTable
import LoadHarness.Text.Fixed
import LoadHarness.Text.Joining
import LoadHarness.Text.Ligature
import LoadHarness.Text.Marks
import LoadHarness.Text.Number
import LoadHarness.Text.Search
import LoadHarness.Text.Table
import LoadHarness.Text.Terminal
import LoadHarness.Text.Utf8
import LoadHarness.Text.Width
import LoadHarness.Tls.CipherSuite
import LoadHarness.Tls.Policy
import LoadHarness.Tls.Settings
import LoadHarness.Tls.Version
import LoadHarness.Url.Host
import LoadHarness.Url.Parser
import LoadHarness.Url.Percent
import LoadHarness.Work
