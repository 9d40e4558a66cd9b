import LspClient.Config.Expansion
import LspClient.Settings
import LspClient.Toml.Document

/-!
# Configuration

A configuration file may say where the language server lives and how a session behaves.
Both parts are optional, and so is every entry in them. Each part is a table, or an array
of its entries in their declared order. Keys that a part does not have are skipped.
-/

namespace LspClient

/-- Where the language server lives. -/
structure EndpointConfig where
  url? : Option String := none
  tcp? : Option String := none
  /-- The language when none is given on the command line. -/
  language? : Option String := none
  deriving DecidableEq, Repr

/-- What a configuration file holds. -/
structure Config where
  endpoint? : Option EndpointConfig := none
  session? : Option Settings := none
  deriving DecidableEq, Repr

/-- The URL with its references to the environment replaced. -/
def EndpointConfig.resolvedUrl? (e : EndpointConfig) (env : Environment) : Option String :=
  e.url?.map (Config.expand env)

namespace Config

/-- The settings of sessions, with defaults for what is not configured. -/
def settings (c : Config) : Settings := c.session?.getD {}

/-! ## Reading -/

/-- Skips a value that is not asked for; it has to be one that can be read. -/
def skip? (value : Toml.Value) (result : α) : Option α :=
  if value.isReadable then some result else none

/-- A text. -/
def text? : Toml.Value → Option String
  | .string text => some text
  | _ => none

/-- A number of less than so many values. -/
def natural? (bound : Nat) : Toml.Value → Option Nat
  | .integer n => if 0 ≤ n && n < bound then some n.toNat else none
  | _ => none

/-- Sets one entry of the endpoint. -/
def setEndpoint (e : EndpointConfig) (entry : String × Toml.Value) : Option EndpointConfig :=
  match entry.1 with
  | "url" => (text? entry.2).map fun url => { e with url? := some url }
  | "tcp" => (text? entry.2).map fun tcp => { e with tcp? := some tcp }
  | "language" => (text? entry.2).map fun language => { e with language? := some language }
  | _ => skip? entry.2 e

/-- The entries of the endpoint in their declared order. -/
def endpointKeys : List String := ["url", "tcp", "language"]

/-- Sets one entry of the session. -/
def setSession (s : Settings) (entry : String × Toml.Value) : Option Settings :=
  let wide (set : UInt64 → Settings) : Option Settings :=
    (natural? (2 ^ 64) entry.2).map fun n => set (UInt64.ofNat n)
  match entry.1 with
  | "connect_timeout_ms" => wide fun n => { s with connectTimeout := n }
  | "request_timeout_ms" => wide fun n => { s with requestTimeout := n }
  | "max_reconnect_attempts" =>
    (natural? (2 ^ 32) entry.2).map fun n => { s with maxReconnectAttempts := UInt32.ofNat n }
  | "backoff_base_ms" => wide fun n => { s with backoffBase := n }
  | "backoff_max_ms" => wide fun n => { s with backoffMax := n }
  | _ => skip? entry.2 s

/-- Reads a part from its table or from the array of its first entries, of which there are
`least` at least. A date counts as a table without known keys. -/
def readPart? (empty : α) (set : α → String × Toml.Value → Option α) (keys : List String)
    (least : Nat) : Toml.Value → Option α
  | .table _ entries => entries.foldlM set empty
  | .dateTime => some empty
  | .array items _ =>
    if items.length < least then none else (keys.zip items).foldlM set empty
  | _ => none

/-- Reads the endpoint; an array has to have all of its entries. -/
def readEndpoint? : Toml.Value → Option EndpointConfig :=
  readPart? {} setEndpoint endpointKeys endpointKeys.length

/-- Reads the settings of sessions. -/
def readSession? : Toml.Value → Option Settings := readPart? {} setSession Settings.fields 0

/-- Reads one part of a configuration. -/
def setPart (c : Config) (entry : String × Toml.Value) : Option Config :=
  match entry.1 with
  | "endpoint" => (readEndpoint? entry.2).map fun e => { c with endpoint? := some e }
  | "session" => (readSession? entry.2).map fun s => { c with session? := some s }
  | _ => skip? entry.2 c

/-- Reads a configuration from its text. -/
def parse? (text : List Char) : Option Config :=
  (Toml.parse? text).bind fun entries => entries.foldlM setPart {}

end Config

end LspClient
