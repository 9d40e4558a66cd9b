import LspClient.Correlator
import LspClient.Dispatcher
import LspClient.Rpc.Codec
import LspClient.Settings

/-!
# Sessions

A session owns the lifecycle, the current connection, the calls that wait for responses
and the handlers. Each operation here is one atomic step; whoever runs several of them
may be interrupted between two steps, and never within one.

A connection has a writer, which works off an outbox, and a reader. Frames are put into
the outbox in the same step that checks the lifecycle, so the order on the wire is the
order of the calls. The generation counts connections and closes, so that a report about
a connection that is no longer the current one can be told apart and ignored.
-/

namespace LspClient

/-- Names one of the jobs that run beside each other. -/
abbrev JobId := Nat

/-- What a writer is told to do. -/
inductive WriterCommand where
  | send (frame : Bytes)
  | stop

/-- The queue of a writer: what it has not taken yet, the oldest command first. -/
structure Outbox where
  commands : List WriterCommand := []
  /-- Nothing can be put in any more. -/
  isSealed : Bool := false
  /-- The writer still takes commands. -/
  isManned : Bool := true

/-- The state of a session. -/
structure Session where
  settings : Settings
  endpoint : String
  lifecycle : Lifecycle := .connecting
  /-- Grows with every connection that is installed and with the close. -/
  generation : Nat := 0
  /-- The outbox of the current connection, as an index into `outboxes`. -/
  outbox? : Option Nat := none
  reader? : Option JobId := none
  writer? : Option JobId := none
  /-- The outboxes of all connections so far. -/
  outboxes : List Outbox := []
  correlator : Correlator := {}
  dispatcher : Dispatcher := {}
  /-- The next id to try for a request that brings none. -/
  nextId : Int64 := 1
  /-- Nobody holds the session any more. -/
  isDropped : Bool := false

/-- A request that was sent: what its caller waits with. -/
structure Ticket where
  id : RequestId
  serial : Nat
  method : String
  deriving DecidableEq, Repr

namespace Session

/-! ## Lifecycle -/

/-- Moves to a state, if it may follow the present one. -/
def moveTo? (s : Session) (next : Lifecycle) : Option Session :=
  if s.lifecycle.canMoveTo next then some { s with lifecycle := next } else none

/-- The session as a description shows it. -/
def describe (s : Session) : String :=
  "Session \x7b endpoint: " ++ Text.quote s.endpoint ++ ", state: " ++ s.lifecycle.name ++
    ", pending: " ++ toString s.correlator.size ++ ", .. \x7d"

/-! ## Outboxes -/

/-- Changes one outbox. -/
def modifyOutbox (s : Session) (index : Nat) (change : Outbox → Outbox) : Session :=
  { s with outboxes := s.outboxes.modify index change }

/-- Puts a command at the end of an outbox. -/
def enqueue (s : Session) (index : Nat) (command : WriterCommand) : Session :=
  s.modifyOutbox index fun o => { o with commands := o.commands ++ [command] }

/-- The outbox that frames go to; only a ready session has one. -/
def readyOutbox (s : Session) : Except CallError Nat :=
  if s.lifecycle = .ready then
    match s.outbox? with
    | some index => .ok index
    | none => .error (.notReady s.lifecycle)
  else .error (.notReady s.lifecycle)

/-- Puts a frame into an outbox, unless its writer has gone. -/
def post? (s : Session) (index : Nat) (frame : Bytes) : Option Session :=
  if (s.outboxes[index]?.map Outbox.isManned).getD false then
    some (s.enqueue index (.send frame))
  else none

/-- Sends a message. -/
def send (s : Session) (message : Envelope) : Except CallError Session := do
  let index ← s.readyOutbox
  match s.post? index message.encode with
  | some sent => .ok sent
  | none => .error .connectionClosed

/-! ## Calls -/

/-- The first number from `id` on that no outstanding call has, looking at `fuel` numbers
and then no further. -/
def freshFrom (s : Session) : Nat → Int64 → Int64
  | 0, id => id
  | fuel + 1, id =>
    if s.correlator.contains (.number id) then s.freshFrom fuel (id + 1) else id

/-- The id of the next request that brings none. One number more than there are
outstanding calls is enough to find one that is free. -/
def freshId (s : Session) : Int64 := s.freshFrom (s.correlator.size + 1) s.nextId

/-- Registers a call, under the given id or a fresh one. -/
def register (s : Session) (id? : Option RequestId) (method : String) (now : Nat) :
    Except CallError (Session × Ticket) := do
  let serial := s.correlator.nextSerial
  match id? with
  | some id =>
    let correlator ← s.correlator.register id method now
    return ({ s with correlator }, ⟨id, serial, method⟩)
  | none =>
    let id := s.freshId
    let correlator ← s.correlator.register (.number id) method now
    return ({ s with correlator, nextId := id + 1 }, ⟨.number id, serial, method⟩)

/-- Sends a request. It is registered and put into the outbox in one step; if the writer
has gone, the registration is taken back. -/
def request (s : Session) (id? : Option RequestId) (method : String) (params : Option Json)
    (now : Nat) : Session × Except CallError Ticket :=
  match s.readyOutbox with
  | .error e => (s, .error e)
  | .ok index =>
    match s.register id? method now with
    | .error e => (s, .error e)
    | .ok (registered, ticket) =>
      match registered.post? index (Envelope.request ⟨ticket.id, method, params⟩).encode with
      | some sent => (sent, .ok ticket)
      | none =>
        match registered.correlator.forget? ticket.id with
        | some (call, rest) =>
          ({ registered with correlator := rest.discard call }, .error .connectionClosed)
        | none => (registered, .error .connectionClosed)

/-- Sends a notification. -/
def notify (s : Session) (method : String) (params : Option Json) : Except CallError Session :=
  s.send (.notification ⟨method, params⟩)

/-- Stops waiting for an id, without telling the server. -/
def cancel? (s : Session) (id : RequestId) : Option Session :=
  (s.correlator.cancel? id).map fun correlator => { s with correlator }

/-- Tells the server to stop working on a request, if it can be told. -/
def tellCancelled (s : Session) (id : RequestId) : Session :=
  match s.notify cancelMethod (some (cancelParams id)) with
  | .ok told => told
  | .error _ => s

/-- Stops waiting for an id and tells the server. -/
def cancelRequest? (s : Session) (id : RequestId) : Option Session :=
  (s.cancel? id).map fun cancelled => cancelled.tellCancelled id

/-- What the caller of a ticket sees by now. -/
def outcome? (s : Session) (ticket : Ticket) : Option Outcome :=
  s.correlator.outcome? ticket.serial

/-- Fails a call whose time has run out. -/
def expire? (s : Session) (ticket : Ticket) (error : CallError) : Option Session :=
  (s.correlator.expire? ticket.id ticket.serial error).map fun correlator => { s with correlator }

/-- Takes a call out that its caller no longer waits for. -/
def abandon? (s : Session) (ticket : Ticket) : Option Session :=
  (s.correlator.abandon? ticket.id ticket.serial).map fun (call, rest) =>
    { s with correlator := rest.discard call }

/-! ## Connections -/

/-- Installs a connection with its jobs and becomes ready, provided that the session is
still in the state from which the connection was looked for. -/
def install (s : Session) (expected : Lifecycle) (reader writer : JobId) :
    Except SessionError Session :=
  if s.lifecycle = expected then
    let installed : Session :=
      { s with
        generation := s.generation + 1
        outbox? := some s.outboxes.length
        reader? := some reader
        writer? := some writer
        outboxes := s.outboxes ++ [{}] }
    .ok ((installed.moveTo? .ready).getD installed)
  else .error (.invalidState s.lifecycle)

/-- Notes that the writer of an outbox, if there is one, takes no more commands. -/
def unman (s : Session) (outbox? : Option Nat) : Session :=
  match outbox? with
  | none => s
  | some index => s.modifyOutbox index fun o => { o with isManned := false }

/-- Seals the current outbox, so that its writer comes to an end. -/
def sealOutbox (s : Session) : Session :=
  match s.outbox? with
  | none => s
  | some index => { s.modifyOutbox index (fun o => { o with isSealed := true }) with outbox? := none }

/-- Takes in that a connection was lost: the session is degraded and lets go of the
connection. The report is ignored if it is about another connection than the current one,
or if the session is not ready any more. -/
def reportLoss? (s : Session) (generation : Nat) : Option Session :=
  if s.generation = generation then
    (s.moveTo? .degraded).map fun degraded =>
      { degraded.sealOutbox with reader? := none, writer? := none }
  else none

/-- Puts the last command into the current outbox. -/
def stopWriter (s : Session) : Session :=
  match s.outbox? with
  | none => s
  | some index => s.enqueue index .stop

/-- The first half of closing: the session is closed and lets go of its connection, whose
writer will stop after the frames that are queued. Nothing happens if it is closed. -/
def close? (s : Session) : Option Session :=
  (s.moveTo? .closed).map fun closed =>
    { closed.stopWriter.sealOutbox with
      generation := s.generation + 1, reader? := none, writer? := none }

/-- The second half of closing: every outstanding call fails. -/
def drain (s : Session) : Session := { s with correlator := s.correlator.drain }

/-- What happens when nobody holds the session any more. -/
def drop (s : Session) : Session :=
  { s.sealOutbox.drain with reader? := none, writer? := none, isDropped := true }

/-! ## Frames from the server -/

/-- What a frame leads to beside the change of the session. -/
structure Reaction where
  records : List LogRecord := []
  invocation? : Option Invocation := none
  /-- A request to be answered in a job of its own, so that it holds nobody up. -/
  request? : Option Request := none

/-- A warning that names the endpoint. -/
def warning (s : Session) (message : String) : LogRecord :=
  .warning message [("endpoint", .string s.endpoint)]

/-- Takes in one frame. -/
def receive (s : Session) (frame : Bytes) : Session × Reaction :=
  match Envelope.decode frame with
  | .error e => (s, { records := [s.warning ("Dropping malformed envelope: " ++ e.message)] })
  | .ok (.response ⟨some id, outcome⟩) =>
    match s.correlator.answer id outcome with
    | .ok correlator => ({ s with correlator }, {})
    | .error e => (s, { records := [s.warning ("Dropping response: " ++ e.message)] })
  | .ok (.response ⟨none, .error e⟩) =>
    (s, { records := [s.warning ("Server reported an uncorrelated error: " ++ e.text)] })
  | .ok (.response ⟨none, .ok _⟩) => (s, {})
  | .ok (.request request) => (s, { request? := some request })
  | .ok (.notification notification) =>
    (s, { records := s.dispatcher.runNotification notification
          invocation? := s.dispatcher.invocation? (.notification notification) })

end Session

end LspClient
