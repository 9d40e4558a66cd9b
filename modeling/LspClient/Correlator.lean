import LspClient.Error

/-!
# Matching responses to the calls that wait for them

Every outstanding request is a `PendingCall` in one table. Each registration gets a
serial number of its own, so that an id can be used again once its call has left the
table. Whoever removes a call from the table decides what becomes of it: the registration
is fulfilled with one outcome, or discarded without one. That happens once, because a
call that has left the table is found by nobody.

An operation that finds no call gives `none`, and nothing changes.
-/

namespace LspClient

/-- An outstanding request. -/
structure PendingCall where
  id : RequestId
  /-- Tells apart the calls that use one id after another. -/
  serial : Nat
  method : String
  /-- When the call was registered, on a clock that never runs back. -/
  issuedAt : Nat

/-- What has become of a registration. -/
inductive Delivery where
  | waiting
  | fulfilled (outcome : Outcome)
  /-- The call was removed and thrown away. -/
  | discarded

/-- What whoever waits for a registration sees; a discarded call will never be answered. -/
def Delivery.outcome? : Delivery → Option Outcome
  | .waiting => none
  | .fulfilled outcome => some outcome
  | .discarded => some (.error .connectionClosed)

/-- The outstanding requests, and what has become of every registration so far. -/
structure Correlator where
  /-- The outstanding requests in the order of their registration; no id occurs twice. -/
  pending : List PendingCall := []
  /-- One entry for every registration, at the place of its serial number. -/
  deliveries : List Delivery := []

namespace Correlator

/-- The serial number of the next registration. -/
def nextSerial (c : Correlator) : Nat := c.deliveries.length

/-- The number of outstanding requests. -/
def size (c : Correlator) : Nat := c.pending.length

/-- Whether no request is outstanding. -/
def isEmpty (c : Correlator) : Bool := c.pending.isEmpty

/-- The outstanding request with this id. -/
def find? (c : Correlator) (id : RequestId) : Option PendingCall :=
  c.pending.find? (·.id == id)

/-- Whether a request with this id is outstanding. -/
def contains (c : Correlator) (id : RequestId) : Bool := (c.find? id).isSome

/-- What has become of a registration. A serial number that was never given out is as
good as discarded. -/
def delivery (c : Correlator) (serial : Nat) : Delivery :=
  c.deliveries[serial]?.getD .discarded

/-- What whoever waits for a registration sees by now. -/
def outcome? (c : Correlator) (serial : Nat) : Option Outcome := (c.delivery serial).outcome?

/-! ## Registering -/

/-- Registers a call. It gets the next serial number, unless its id is outstanding. -/
def register (c : Correlator) (id : RequestId) (method : String) (now : Nat) :
    Except CallError Correlator :=
  if c.contains id then
    .error (.duplicateId id)
  else
    .ok { pending := c.pending ++ [⟨id, c.nextSerial, method, now⟩]
          deliveries := c.deliveries ++ [.waiting] }

/-- A registration takes the next serial number and waits. -/
theorem register_eq_ok {c next : Correlator} {id : RequestId} {method : String} {now : Nat}
    (h : c.register id method now = .ok next) :
    next.pending = c.pending ++ [⟨id, c.nextSerial, method, now⟩] ∧
      next.deliveries = c.deliveries ++ [.waiting] := by
  unfold register at h
  split at h
  · cases h
  · cases h
    exact ⟨rfl, rfl⟩

/-! ## Removing -/

/-- The table without this id. -/
def erase (c : Correlator) (id : RequestId) : Correlator :=
  { c with pending := c.pending.filter (·.id != id) }

/-- Notes what has become of a call that has left the table. -/
def deliver (c : Correlator) (call : PendingCall) (delivery : Delivery) : Correlator :=
  { c with deliveries := c.deliveries.set call.serial delivery }

/-- Nothing that becomes of a call changes how many registrations there were. -/
@[simp] theorem nextSerial_deliver (c : Correlator) (call : PendingCall) (delivery : Delivery) :
    (c.deliver call delivery).nextSerial = c.nextSerial := by
  unfold deliver nextSerial
  rw [List.length_set]

/-- What becomes of one call is nothing that becomes of another registration. -/
theorem delivery_deliver_of_ne {call : PendingCall} {serial : Nat} (h : serial ≠ call.serial)
    (c : Correlator) (delivery : Delivery) :
    (c.deliver call delivery).delivery serial = c.delivery serial := by
  unfold deliver Correlator.delivery
  rw [List.getElem?_set_ne (fun same => h same.symm)]

/-- What has become of a call is what was noted. -/
theorem delivery_deliver_self {c : Correlator} {call : PendingCall}
    (h : call.serial < c.nextSerial) (delivery : Delivery) :
    (c.deliver call delivery).delivery call.serial = delivery := by
  unfold deliver Correlator.delivery
  rw [List.getElem?_set_self h]
  rfl

/-- Removes the call with this id and leaves it to the caller to deliver or to discard. -/
def forget? (c : Correlator) (id : RequestId) : Option (PendingCall × Correlator) :=
  (c.find? id).map fun call => (call, c.erase id)

/-- Removes the registration with this serial number, and no later one that uses its id. -/
def abandon? (c : Correlator) (id : RequestId) (serial : Nat) :
    Option (PendingCall × Correlator) :=
  match c.find? id with
  | some call => if call.serial = serial then some (call, c.erase id) else none
  | none => none

/-- Throws away a call that has been removed. -/
def discard (c : Correlator) (call : PendingCall) : Correlator := c.deliver call .discarded

/-- Fulfils a call that has been removed. -/
def fulfil (c : Correlator) (call : PendingCall) (outcome : Outcome) : Correlator :=
  c.deliver call (.fulfilled outcome)

/-- Removes the call with this id and fulfils it. -/
def settle? (c : Correlator) (id : RequestId) (outcome : Outcome) : Option Correlator :=
  (c.forget? id).map fun (call, rest) => rest.fulfil call outcome

/-- Fulfils a call with the server's answer. -/
def answer (c : Correlator) (id : RequestId) (outcome : RpcOutcome) :
    Except UnmatchedResponse Correlator :=
  match c.settle? id (outcome.mapError .rpc) with
  | some rest => .ok rest
  | none => .error ⟨id⟩

/-- Fulfils a call with its result. -/
def resolve (c : Correlator) (id : RequestId) (result : Json) :
    Except UnmatchedResponse Correlator :=
  c.answer id (.ok result)

/-- Fulfils a call with the server's error. -/
def reject (c : Correlator) (id : RequestId) (error : RpcError) :
    Except UnmatchedResponse Correlator :=
  c.answer id (.error error)

/-- Stops waiting for this id; its caller sees that the call was cancelled. -/
def cancel? (c : Correlator) (id : RequestId) : Option Correlator :=
  c.settle? id (.error .cancelled)

/-- Fails one registration, and no later one that uses its id. -/
def expire? (c : Correlator) (id : RequestId) (serial : Nat) (error : CallError) :
    Option Correlator :=
  (c.abandon? id serial).map fun (call, rest) => rest.fulfil call (.error error)

/-! ## Draining -/

/-- Calls ordered by the time of their registration. Calls of the same time stay in the
order in which they are visited. -/
def oldestFirst (calls : List PendingCall) : List PendingCall :=
  calls.mergeSort fun a b => a.issuedAt ≤ b.issuedAt

/-- The calls that draining returns. -/
def drained (c : Correlator) : List PendingCall := oldestFirst c.pending

/-- Empties the table and fails every call in it: the connection is closed. -/
def drain (c : Correlator) : Correlator :=
  c.drained.foldl (fun rest call => rest.fulfil call (.error .connectionClosed))
    { c with pending := [] }

end Correlator

end LspClient
