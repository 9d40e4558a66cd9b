import LspClient.Rpc.Error
import LspClient.Rpc.Id

/-!
# Envelopes

One message on the wire: a request, a response or a notification. Parameters and results
are JSON that the client passes on without looking inside.
-/

namespace LspClient

/-- A call that the other side answers under the same id. -/
structure Request where
  id : RequestId
  method : String
  params : Option Json := none

/-- A message that nobody answers. -/
structure Notification where
  method : String
  params : Option Json := none

/-- What a request led to: its result or the peer's error. -/
abbrev RpcOutcome := Except RpcError Json

/-- An answer. It has no id only if the peer could not tell which request it failed on. -/
structure Response where
  id : Option RequestId
  outcome : RpcOutcome

/-- One message. -/
inductive Envelope where
  | request (request : Request)
  | response (response : Response)
  | notification (notification : Notification)

namespace Envelope

/-- The method of a request or a notification. -/
def method? : Envelope → Option String
  | .request r => some r.method
  | .notification n => some n.method
  | .response _ => none

/-- Whether two outcomes are equal. -/
def sameOutcome : RpcOutcome → RpcOutcome → Bool
  | .ok a, .ok b => a == b
  | .error a, .error b => a == b
  | _, _ => false

/-- Whether two messages are equal, member by member. -/
def beq : Envelope → Envelope → Bool
  | .request a, .request b => a.id == b.id && a.method == b.method && a.params == b.params
  | .notification a, .notification b => a.method == b.method && a.params == b.params
  | .response a, .response b => a.id == b.id && sameOutcome a.outcome b.outcome
  | _, _ => false

instance : BEq Envelope := ⟨beq⟩

end Envelope

/-- The method of the notification that tells a server to stop working on a request. -/
def cancelMethod : String := "$/cancelRequest"

/-- The parameters of that notification. -/
def cancelParams (id : RequestId) : Json := Json.ofMembers [("id", id.toJson)]

end LspClient
