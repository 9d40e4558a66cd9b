import LspClient.Json.Reading

/-!
# Session settings

Timing and retry policy of a session. Every field has a default, so that a settings
record may leave out any of them. Times are whole milliseconds.
-/

namespace LspClient

/-- Timing and retry policy of a session. -/
structure Settings where
  /-- How long one attempt to open a connection may take. -/
  connectTimeout : UInt64 := 10000
  /-- How long a response may take. -/
  requestTimeout : UInt64 := 30000
  /-- Retries after a failed first attempt, and attempts after a lost connection. -/
  maxReconnectAttempts : UInt32 := 5
  /-- The delay before the first retry. -/
  backoffBase : UInt64 := 250
  /-- The longest delay before a retry. -/
  backoffMax : UInt64 := 30000
  deriving DecidableEq, Repr

namespace Settings

/-- The largest exponent of the doubling delay. -/
def maxDoublings : Nat := 32

/-- The delay before a retry, counted from one: the base doubled for every retry after
the first, at most `maxDoublings` times, and never more than the longest delay. A product
that does not fit 64 bits counts as the greatest number that does. -/
def backoffDelay (settings : Settings) (retry : Nat) : Nat :=
  let doublings := min (retry - 1) maxDoublings
  min (min (settings.backoffBase.toNat * 2 ^ doublings) (2 ^ 64 - 1)) settings.backoffMax.toNat

/-- The attempts of a first connect: one and its retries, as far as they can be counted. -/
def connectAttempts (settings : Settings) : Nat :=
  min (settings.maxReconnectAttempts.toNat + 1) (2 ^ 32 - 1)

/-! ## Reading -/

/-- How messages name the record. -/
def recordName : String := "SessionConfig"

/-- Reads one member; a member that settings do not have is skipped. -/
def visit (settings : Settings) (member : String × Json) : Except Json.ReadError Settings :=
  match member.1 with
  | "connect_timeout_ms" => return { settings with connectTimeout := ← Json.readUInt64 member.2 }
  | "request_timeout_ms" => return { settings with requestTimeout := ← Json.readUInt64 member.2 }
  | "max_reconnect_attempts" =>
    return { settings with maxReconnectAttempts := ← Json.readUInt32 member.2 }
  | "backoff_base_ms" => return { settings with backoffBase := ← Json.readUInt64 member.2 }
  | "backoff_max_ms" => return { settings with backoffMax := ← Json.readUInt64 member.2 }
  | _ => return settings

/-- The fields in their declared order. -/
def fields : List String :=
  ["connect_timeout_ms", "request_timeout_ms", "max_reconnect_attempts", "backoff_base_ms",
    "backoff_max_ms"]

/-- Reads settings from an object, or from an array of the first fields. -/
def ofJson : Json → Except Json.ReadError Settings
  | .object members => members.foldlM visit {}
  | .array items => do
    let settings ← (fields.zip items).foldlM visit {}
    if items.length ≤ fields.length then .ok settings else .error (.tooMany items.length)
  | found => .error (.wrongType found (.record recordName))

end Settings

end LspClient
