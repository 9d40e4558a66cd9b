import LspClient.Client.Schedule
import LspClient.CommandLine.Arguments
import LspClient.CommandLine.Handlers
import LspClient.CommandLine.Line
import LspClient.Config.FileTree
import LspClient.Endpoint
import LspClient.Framing.Reader
import LspClient.Framing.Writer
import LspClient.Loopback
import LspClient.Main
import LspClient.Proofs.Client.Allocation
import LspClient.Proofs.Client.Answers
import LspClient.Proofs.Client.Closing
import LspClient.Proofs.Client.Connecting
import LspClient.Proofs.Client.Console
import LspClient.Proofs.Client.Dealing
import LspClient.Proofs.Client.Flush
import LspClient.Proofs.Client.Noise
import LspClient.Proofs.Client.Numbers
import LspClient.Proofs.Client.Printed
import LspClient.Proofs.Client.Reconnect
import LspClient.Proofs.Client.Recovery
import LspClient.Proofs.Client.Replies
import LspClient.Proofs.Client.Requests
import LspClient.Proofs.Client.Teardown
import LspClient.Proofs.Client.Timeouts
import LspClient.Proofs.CommandLine.Arguments
import LspClient.Proofs.CommandLine.Diagnostics
import LspClient.Proofs.Config.Expansion
import LspClient.Proofs.Correlator.Delivery
import LspClient.Proofs.Correlator.Draining
import LspClient.Proofs.Correlator.Stale
import LspClient.Proofs.Decimal.Natural
import LspClient.Proofs.Dispatcher.History
import LspClient.Proofs.Framing.Progress
import LspClient.Proofs.Framing.RoundTrip
import LspClient.Proofs.Json.Compact
import LspClient.Proofs.Json.Members
import LspClient.Proofs.Json.Numeral
import LspClient.Proofs.Json.Ordered
import LspClient.Proofs.Json.RoundTrip
import LspClient.Proofs.Loopback.Demand
import LspClient.Proofs.Rpc.Grammar
import LspClient.Proofs.Rpc.Resend
import LspClient.Proofs.Rpc.RoundTrip
import LspClient.Proofs.Rpc.Writers
import LspClient.Proofs.Session.Backoff
import LspClient.Proofs.Url.Language
import LspClient.Rpc.Codec
import LspClient.Session.Basic
import LspClient.Toml.Document
import LspClient.Url.Basic
