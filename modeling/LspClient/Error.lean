import LspClient.Lifecycle
import LspClient.Rpc.Codec
import LspClient.Text.Duration

/-!
# What can go wrong

Faults of a transport (`ConnectError`, `SendError`, `TransportError`) are met by the
session itself, which reconnects. Faults of one call reach its caller as a `CallError`,
faults of the session's life as a `SessionError`. Frames that are no envelope and
responses that nobody waits for are reported and dropped.
-/

namespace LspClient

/-- Why a connection could not be opened. -/
inductive ConnectError where
  | timedOut (millis : Nat)
  | invalidEndpoint (reason : String)
  | failed (reason : String)
  deriving DecidableEq, Repr

/-- The wording of a connect error. -/
def ConnectError.message : ConnectError → String
  | .timedOut millis => "connect timed out after " ++ Text.duration millis
  | .invalidEndpoint reason => "invalid endpoint: " ++ reason
  | .failed reason => "connection failed: " ++ reason

/-- Why a frame could not be written. -/
inductive SendError where
  | closed
  | io (reason : String)
  deriving DecidableEq, Repr

/-- The wording of a send error. -/
def SendError.message : SendError → String
  | .closed => "transport is closed"
  | .io reason => "write failed: " ++ reason

/-- Why no frame could be read; the connection is lost. -/
structure TransportError where
  reason : String
  deriving DecidableEq, Repr

/-- The wording of a transport error. -/
def TransportError.message (e : TransportError) : String := "transport read failed: " ++ e.reason

/-- A response with an id that no call waits under. -/
structure UnmatchedResponse where
  id : RequestId
  deriving DecidableEq, Repr

/-- The wording of an unmatched response. -/
def UnmatchedResponse.message (e : UnmatchedResponse) : String :=
  "no pending call for response id " ++ e.id.text

/-- Why a request or a notification failed. -/
inductive CallError where
  | notReady (state : Lifecycle)
  | duplicateId (id : RequestId)
  | timeout (method : String) (millis : Nat)
  | connectionClosed
  | cancelled
  | rpc (error : RpcError)

/-- The wording of a call error; a peer's error speaks for itself. -/
def CallError.message : CallError → String
  | .notReady state => "session is not ready (state: " ++ state.label ++ ")"
  | .duplicateId id => "request id " ++ id.text ++ " is already pending"
  | .timeout method millis =>
    "request '" ++ method ++ "' timed out after " ++ Text.duration millis
  | .connectionClosed => "connection closed before a response arrived"
  | .cancelled => "request cancelled"
  | .rpc error => error.text

/-- What a call leads to. -/
abbrev Outcome := Except CallError Json

/-- Why a session could not be opened. -/
inductive SessionError where
  | connectFailed (attempts : Nat) (last : ConnectError)
  | invalidState (state : Lifecycle)
  deriving DecidableEq, Repr

/-- The wording of a session error. -/
def SessionError.message : SessionError → String
  | .connectFailed attempts last =>
    "could not connect after " ++ toString attempts ++ " attempt(s): " ++ last.message
  | .invalidState state => "operation not valid in state " ++ state.label

/-- The error behind a session error. -/
def SessionError.source? : SessionError → Option ConnectError
  | .connectFailed _ last => some last
  | .invalidState _ => none

end LspClient
