import LspClient.Json.Parser
import LspClient.Rpc.Envelope

/-!
# Envelopes as JSON

`toJson` and `encode` write an envelope; `ofJson` and `decode` read one. Reading tells
the three shapes apart by which of the members `id`, `method`, `result` and `error` are
present. What fits none of them is malformed, for the first reason in a fixed order.
-/

namespace LspClient

/-- Why a frame is no envelope. -/
inductive MalformedEnvelope where
  | invalidJson (cause : Json.SyntaxError)
  | notAnObject
  | unsupportedVersion
  | invalidId
  | invalidMethod
  | notificationWithId
  | methodWithOutcome
  | ambiguousResponse
  | missingOutcome
  | missingId
  | nullIdWithResult
  | invalidError (cause : Json.ReadError)

/-- The wording of the reason. -/
def MalformedEnvelope.message : MalformedEnvelope → String
  | .invalidJson cause => "invalid JSON: " ++ cause.message
  | .notAnObject => "envelope is not a JSON object"
  | .unsupportedVersion => "missing or unsupported jsonrpc version"
  | .invalidId => "id must be an integer or a string"
  | .invalidMethod => "method must be a string"
  | .notificationWithId => "notification must not carry an id"
  | .methodWithOutcome => "request or notification must not carry result or error"
  | .ambiguousResponse => "response must not carry both result and error"
  | .missingOutcome => "response carries neither result nor error"
  | .missingId => "response without method is missing its id"
  | .nullIdWithResult => "successful response must have a non-null id"
  | .invalidError cause => "invalid error object: " ++ cause.message

namespace Envelope

/-- The version that every envelope states. -/
def version : String := "2.0"

/-! ## Writing -/

/-- The member for parameters, if there are any. -/
def paramsMember (params : Option Json) : List (String × Json) :=
  (params.map (("params", ·))).toList

/-- The member for an outcome. -/
def outcomeMember : RpcOutcome → String × Json
  | .ok result => ("result", result)
  | .error e => ("error", e.toJson)

/-- The id of a response, null if it has none. -/
def idJson (id : Option RequestId) : Json := (id.map RequestId.toJson).getD .null

/-- The members of an envelope apart from its version. -/
def members : Envelope → List (String × Json)
  | .request r => [("id", r.id.toJson), ("method", .string r.method)] ++ paramsMember r.params
  | .notification n => ("method", .string n.method) :: paramsMember n.params
  | .response r => [("id", idJson r.id), outcomeMember r.outcome]

/-- The JSON object of an envelope. -/
def toJson (e : Envelope) : Json := Json.ofMembers (("jsonrpc", .string version) :: e.members)

/-- The frame of an envelope. -/
def encode (e : Envelope) : Bytes := e.toJson.bytes

/-! ## Reading -/

/-- Reads the id of a request: null is no id, and neither is anything that is not an
integer or a string. -/
def readRequestId (raw : Json) : Except MalformedEnvelope RequestId :=
  match raw with
  | .null => .error .notificationWithId
  | raw =>
    match RequestId.ofJson? raw with
    | some id => .ok id
    | none => .error .invalidId

/-- Reads the id of a response, which may be null. -/
def readResponseId (raw : Json) : Except MalformedEnvelope (Option RequestId) :=
  match raw with
  | .null => .ok none
  | raw =>
    match RequestId.ofJson? raw with
    | some id => .ok (some id)
    | none => .error .invalidId

/-- Reads an envelope that has a method. -/
def readCall (find : String → Option Json) (method : Json) : Except MalformedEnvelope Envelope :=
  match method with
  | .string method =>
    if (find "result").isSome || (find "error").isSome then .error .methodWithOutcome
    else
      match find "id" with
      | none => .ok (.notification ⟨method, find "params"⟩)
      | some raw => do
        let id ← readRequestId raw
        .ok (.request ⟨id, method, find "params"⟩)
  | _ => .error .invalidMethod

/-- Reads an envelope that has no method. -/
def readResponse (find : String → Option Json) : Except MalformedEnvelope Envelope :=
  match find "id" with
  | none => .error .missingId
  | some raw => do
    let id ← readResponseId raw
    match find "result", find "error" with
    | some _, some _ => .error .ambiguousResponse
    | none, none => .error .missingOutcome
    | some result, none =>
      if id.isNone then .error .nullIdWithResult else .ok (.response ⟨id, .ok result⟩)
    | none, some raw =>
      match RpcError.ofJson raw with
      | .ok e => .ok (.response ⟨id, .error e⟩)
      | .error cause => .error (.invalidError cause)

/-- Reads an envelope from its JSON. -/
def ofJson (value : Json) : Except MalformedEnvelope Envelope :=
  match value with
  | .object members =>
    let find (key : String) := Json.findMember? key members
    if (find "jsonrpc").bind Json.string? ≠ some version then .error .unsupportedVersion
    else
      match find "method" with
      | some method => readCall find method
      | none => readResponse find
  | _ => .error .notAnObject

/-- Reads an envelope from a frame. -/
def decode (frame : Bytes) : Except MalformedEnvelope Envelope :=
  match Json.parse frame with
  | .ok value => ofJson value
  | .error cause => .error (.invalidJson cause)

end Envelope

end LspClient
