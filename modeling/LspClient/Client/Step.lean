import LspClient.Client.Basic
import LspClient.CommandLine.Handlers

/-!
# The steps of jobs

`Client.step` lets one job do its next atomic step, whatever the other jobs are about to
do; `Client.isReady` tells whether the job has one to do or has to wait. Nothing is said
here about the order in which jobs take their turns.
-/

namespace LspClient.Client

/-! ## Losing the connection -/

/-- Ends a reader or a writer; the outbox of a writer is not worked off any more. -/
def endLoss (c : Client) (id : JobId) (outbox? : Option Nat) : Client :=
  ({ c with session := c.session.unman outbox? }).finish id

/-- A step of a job that has lost its connection. -/
def stepLoss (c : Client) (id : JobId) (generation : Nat) (outbox? : Option Nat) :
    LossStage → Client
  | .reporting =>
    match c.session.reportLoss? generation with
    | none => c.endLoss id outbox?
    | some session =>
      ({ c.cancelReader with session }).become id (.lose generation outbox? .deciding)
  | .deciding =>
    let s := c.session
    if s.settings.maxReconnectAttempts = 0 then
      (c.log [s.warning "Connection lost and reconnection is disabled"]).become id
        (.lose generation outbox? .closing)
    else
      ((c.log [.warning "Connection lost; reconnecting"
          [("endpoint", .string s.endpoint),
            ("pending", (Json.ofInt? s.correlator.size).getD .null)]]).spawn
        (.search .again .arriving)).endLoss id outbox?
  | .closing =>
    match c.close? with
    | some (closed, _) => closed.become id (.lose generation outbox? .draining)
    | none => c.endLoss id outbox?
  | .draining => ({ c with session := c.session.drain }).endLoss id outbox?

/-! ## Reading and writing -/

/-- A step of a reader: takes in one message, or finds that the connection is lost. -/
def stepRead (c : Client) (id : JobId) (peer generation : Nat) : Client :=
  match c.loopback.peer? peer with
  | none => c.finish id
  | some p =>
    let (p, incoming) := p.read c.loopback.medium
    let c := c.modifyPeer peer fun _ => p
    if c.session.isDropped then (c.modifyPeer peer Peer.unhear).finish id
    else
      match incoming with
      | .nothing => c
      | .message body =>
        let (session, reaction) := c.session.receive body
        let c := (({ c with session }).log reaction.records).noteInvocation reaction.invocation?
        match reaction.request? with
        | some request => c.spawn (.reply request .arriving)
        | none => c
      | .broken e =>
        ((c.modifyPeer peer Peer.unhear).log
            [c.session.warning ("LSP read error: " ++ e.message)]).become id
          (.lose generation none .reporting)
      | .ended => (c.modifyPeer peer Peer.unhear).become id (.lose generation none .reporting)

/-- A step of a writer. -/
def stepWrite (c : Client) (id : JobId) (peer generation outbox : Nat) : WriteStage → Client
  | .idle =>
    match c.session.outboxes[outbox]? with
    | none => c.finish id
    | some o =>
      match o.commands with
      | .send frame :: rest =>
        let session := c.session.modifyOutbox outbox fun o => { o with commands := rest }
        ({ c with session }).become id
          (.write peer generation outbox (.writing (c.loopback.medium.wrap frame)))
      | .stop :: rest =>
        let session := c.session.modifyOutbox outbox fun o => { o with commands := rest }
        ({ c with session }).become id (.write peer generation outbox .closing)
      | [] => if o.isSealed then c.become id (.write peer generation outbox .closing) else c
  | .writing left =>
    match c.loopback.peer? peer with
    | none => c.endLoss id (some outbox)
    | some p =>
      match p.write c.loopback.medium left with
      | .ok (p, left) =>
        (c.modifyPeer peer fun _ => p).become id
          (.write peer generation outbox (if left.isEmpty then .idle else .writing left))
      | .error e =>
        let c := c.log [.warning ("LSP write error: " ++ e.message)]
        if c.session.isDropped then c.endLoss id (some outbox)
        else c.become id (.lose generation (some outbox) .reporting)
  | .closing => (c.modifyPeer peer Peer.close).endLoss id (some outbox)

/-! ## Answering the server -/

/-- A step of a reply. -/
def stepReply (c : Client) (id : JobId) (request : Request) : ReplyStage → Client
  | .arriving =>
    let c := c.noteInvocation (c.session.dispatcher.invocation? (.request request))
    match c.session.dispatcher.take request with
    | .replied response => c.become id (.reply request (.replying response))
    | .called (.crashed _) => c.finish id
    | .called (.running millis ending) =>
      c.become id (.reply request (.working (Clock.due c.clock millis) ending))
  | .working _ ending =>
    (c.log (Dispatcher.endingRecords request ending)).become id
      (.reply request (.replying (Dispatcher.reply request ending)))
  | .replying response =>
    if c.session.isDropped then c.finish id
    else
      match c.session.send (.response response) with
      | .ok session => ({ c with session }).finish id
      | .error _ => c.finish id

/-! ## Calls -/

/-- The error of a call whose time has run out. -/
def timeoutOf (c : Client) (ticket : Ticket) : CallError :=
  .timeout ticket.method c.session.settings.requestTimeout.toNat

/-- What is logged once for a call whose time has run out. -/
def timeoutRecord (ticket : Ticket) : LogRecord :=
  .warning "Request timed out"
    [("id", .string ticket.id.text), ("method", .string ticket.method)]

/-- The timer of a call has run out: the call fails, if it is still waited for. -/
def stepExpire (c : Client) (id : JobId) (ticket : Ticket) : Client :=
  match c.session.expire? ticket (c.timeoutOf ticket) with
  | some session => (({ c with session }).log [timeoutRecord ticket]).finish id
  | none => c.finish id

/-- A call has come to its outcome: its timer ends, and the outcome goes to its receiver. -/
def conclude (c : Client) (id : JobId) (request : PendingRequest) (receiver : Receiver)
    (outcome : Outcome) : Client :=
  let c := c.cancelJob request.timer
  match receiver with
  | .printer echo => (c.print (CommandLine.replyJson echo outcome)).finish id
  | _ => (c.noteResult id (.called outcome)).finish id

/-- A step of whoever waits for a call. He takes the outcome, or finds that there is none at
the deadline; the outcome is looked at before the deadline is. Then he gives the call up, and
his error is the timeout even if the call has come to something else in between. -/
def stepAwait (c : Client) (id : JobId) (request : PendingRequest) (receiver : Receiver) :
    AwaitStage → Client
  | .looking =>
    match c.session.outcome? request.ticket with
    | some outcome => c.conclude id request receiver outcome
    | none =>
      if c.clock < request.deadline then c else c.become id (.await request receiver .late)
  | .late =>
    let outcome := .error (c.timeoutOf request.ticket)
    match c.session.abandon? request.ticket with
    | some session =>
      (({ c with session }).log [timeoutRecord request.ticket]).conclude id request receiver outcome
    | none => c.conclude id request receiver outcome

/-- Sends the request of a call and waits for it. -/
def stepCall (c : Client) (id : JobId) (method : String) (params : Option Json) : Client :=
  match c.request none method params with
  | (c, .ok request) => c.become id (.await request .keeper .looking)
  | (c, .error e) => (c.noteResult id (.called (.error e))).finish id

/-! ## Looking for a connection -/

/-- Lets the next search pass the gate. -/
def openGate (c : Client) : Client :=
  match c.gateQueue with
  | [] => { c with gateHolder? := none }
  | next :: rest => { c with gateHolder? := some next, gateQueue := rest }

/-- Takes a search to its last point, where nothing is left to do but to open the gate. -/
def leaveSearch (c : Client) (id : JobId) (why : Search) (error? : Option SessionError) : Client :=
  c.become id (.search why (.leaving error?))

/-- Ends a search. Only a first search has somebody who waits for its result. -/
def endSearch (c : Client) (id : JobId) (why : Search) (error? : Option SessionError) : Client :=
  match why with
  | .first =>
    let result : Except SessionError Unit :=
      match error? with
      | some error => .error error
      | none => .ok ()
    (c.openGate.noteResult id (.connected result)).finish id
  | .again => c.openGate.finish id

/-- Ends a search that is given up while it waits: it lets the next one pass if it is past
the gate, and no longer waits there if it is not. -/
def giveUpSearch (c : Client) (id : JobId) : Client :=
  if c.gateHolder? = some id then c.openGate.finish id
  else ({ c with gateQueue := c.gateQueue.filter (· != id) }).finish id

/-- Goes on to an attempt, after its delay. -/
def toAttempt (c : Client) (id : JobId) (why : Search) (attempt : Nat) : Client :=
  match why.retry attempt with
  | 0 => c.become id (.search why (.checking attempt))
  | retry =>
    c.become id (.search why
      (.backingOff attempt (Clock.due c.clock (c.session.settings.backoffDelay retry))))

/-- A search has failed. A first search closes the session in any case; a later one leaves
it alone if it was closed or opened by somebody else. -/
def failSearch (c : Client) (id : JobId) (why : Search) (error : SessionError) : Client :=
  match why, error with
  | .first, _ => c.become id (.search why (.closing error))
  | .again, .invalidState _ => c.leaveSearch id why (some error)
  | .again, _ =>
    (c.log [c.session.warning ("Giving up on reconnect: " ++ error.message)]).become id
      (.search why (.closing error))

/-- Goes on to the next attempt after so many, the last of which has failed like this; if none
is left the search has failed. -/
def nextAttempt (c : Client) (id : JobId) (why : Search) (made : Nat) (last : ConnectError) :
    Client :=
  let attempts := why.attempts c.session.settings
  if made < attempts then c.toAttempt id why (made + 1)
  else c.failSearch id why (.connectFailed attempts last)

/-- An attempt has failed. -/
def failAttempt (c : Client) (id : JobId) (why : Search) (attempt : Nat)
    (error : ConnectError) : Client :=
  let number (n : Nat) : Json := (Json.ofInt? n).getD .null
  let record : LogRecord :=
    .warning ("Connect attempt failed: " ++ error.message)
      [("attempt", number attempt), ("attempts", number (why.attempts c.session.settings)),
        ("endpoint", .string c.session.endpoint)]
  (c.log [record]).nextAttempt id why attempt error

/-- The error of a search that has failed before its first attempt. -/
def noAttempt : ConnectError := .failed "no connection attempt made"

/-- A step of a search. -/
def stepSearch (c : Client) (id : JobId) (why : Search) : SearchStage → Client
  | .arriving =>
    match c.gateHolder? with
    | none => ({ c with gateHolder? := some id }).become id (.search why .atGate)
    | some _ => ({ c with gateQueue := c.gateQueue ++ [id] }).become id (.search why .atGate)
  | .atGate =>
    if c.session.lifecycle = why.state then c.nextAttempt id why 0 noAttempt
    else c.leaveSearch id why (some (.invalidState c.session.lifecycle))
  | .backingOff attempt _ => c.become id (.search why (.checking attempt))
  | .checking attempt =>
    if c.session.lifecycle = why.state then c.become id (.search why (.starting attempt))
    else c.failSearch id why (.invalidState c.session.lifecycle)
  -- nothing is locked since the check, so that the session may have been closed
  | .starting attempt =>
    let (loopback, resume?) := c.loopback.beginOpen c.clock
    ({ c with loopback }).become id (.search why
      (.opening attempt loopback.attempts
        (Clock.due c.clock c.session.settings.connectTimeout.toNat) resume?))
  | .opening attempt number _ resume? =>
    if resume?.any (· ≤ c.clock) then
      match c.loopback.finishOpen number with
      | (loopback, .ok peer) =>
        ({ c with loopback }).become id (.search why (.installing attempt peer))
      | (loopback, .error e) => ({ c with loopback }).failAttempt id why attempt e
    else c.failAttempt id why attempt (.timedOut c.session.settings.connectTimeout.toNat)
  | .installing _ peer =>
    let reader := c.nextJob
    let writer := c.nextJob + 1
    match c.session.install why.state reader writer with
    | .ok session =>
      let generation := session.generation
      let outbox := c.session.outboxes.length
      let c := (({ c with session }).spawn (.read peer generation)).spawn
        (.write peer generation outbox .idle)
      c.leaveSearch id why none
    | .error e =>
      (c.modifyPeer peer fun p => p.close.unhear).failSearch id why e
  | .closing error =>
    match c.close? with
    | some (closed, _) => closed.become id (.search why (.draining error))
    | none => c.leaveSearch id why (some error)
  | .draining error =>
    ({ c with session := c.session.drain }).leaveSearch id why (some error)
  | .leaving error? => c.endSearch id why error?

/-! ## Shutting down -/

/-- How long a shutdown waits for queued frames. -/
def flushTimeout : Nat := 2000

/-- A step of a shutdown. -/
def stepShutdown (c : Client) (id : JobId) : ShutdownStage → Client
  | .closing =>
    match c.close? with
    | some (closed, writer?) => closed.become id (.shutDown (.draining writer?))
    | none => (c.noteResult id .shutDown).finish id
  | .draining writer? =>
    ({ c with session := c.session.drain }).become id
      (.shutDown (.flushing writer? (c.clock + flushTimeout)))
  | .flushing _ _ => (c.noteResult id .shutDown).finish id

/-! ## The command line -/

/-- Sends what an input line asks for, and gives the job that waits for the answer. -/
def sendLine (c : Client) : CommandLine.Outgoing → Client × Option JobId
  | .notification method params =>
    match c.notify method params with
    | (c, .ok ()) => (c, none)
    | (c, .error e) =>
      (c.log [.warning ("Notification not sent: " ++ e.message) [("method", .string method)]], none)
  | .request echo method params =>
    match c.request none method params with
    | (c, .error e) => (c.print (CommandLine.replyJson echo (.error e)), none)
    | (c, .ok request) => (c.spawn (.await request (.printer echo) .looking), some c.nextJob)

/-- Takes one input line. -/
def takeLine (c : Client) (line : List Char) : Client × Option JobId :=
  match CommandLine.readLine line with
  | .ok none => (c, none)
  | .ok (some outgoing) => c.sendLine outgoing
  | .error e => (c.log [.warning ("Skipping input line: " ++ e.message)], none)

/-- Ends the command line's loop; what still waits for an answer ends with it. -/
def endForward (c : Client) (id : JobId) (waiting : List JobId)
    (result : Except ForwardError Unit) : Client :=
  ((c.cancelJobs waiting).noteResult id (.forwarded result)).finish id

/-- What is logged at an interrupt. -/
def interruptRecords : Interrupt → List LogRecord
  | .pressed => [⟨.info, "Interrupted; shutting down", []⟩]
  | .unheard reason =>
    [.warning ("Ctrl-C listener failed: " ++ reason), ⟨.info, "Interrupted; shutting down", []⟩]

/-- Turns to the other events of the command line's loop when there is no line. -/
def stepIdleForward (c : Client) (id : JobId) (waiting : List JobId) : Client :=
  match c.console.interrupt? with
  | some interrupt => (c.log (interruptRecords interrupt)).endForward id waiting (.ok ())
  | none =>
    if c.session.lifecycle.isTerminal then c.endForward id waiting (.error .lostConnection) else c

/-- A step of the command line's loop. -/
def stepForward (c : Client) (id : JobId) (waiting : List JobId) : ForwardStage → Client
  | .reading =>
    match c.console.next with
    | .none => c.stepIdleForward id waiting
    | .ended => c.become id (.forward .finishing waiting)
    | .line content rest =>
      let c := { c with console := { c.console with input := rest } }
      match Utf8.decode content with
      | .error fault => c.endForward id waiting (.error (.notText fault))
      | .ok line =>
        let (c, started?) := c.takeLine line
        c.become id (.forward .reading (waiting ++ started?.toList))
  | .finishing => c.endForward id waiting (.ok ())

/-! ## Any job -/

/-- Clears away what a cancelled job leaves behind. -/
def stepCancelled (c : Client) (job : Job) : Client :=
  match job.activity with
  | .read peer _ => (c.modifyPeer peer Peer.unhear).finish job.id
  | .await request _ _ => (c.dropRequest request).finish job.id
  | .search .. => c.giveUpSearch job.id
  | _ => c.finish job.id

/-- The next step of a job. -/
def step (c : Client) (job : Job) : Client :=
  if job.isCancelled then c.stepCancelled job
  else
    match job.activity with
    | .read peer generation => c.stepRead job.id peer generation
    | .write peer generation outbox stage => c.stepWrite job.id peer generation outbox stage
    | .lose generation outbox? stage => c.stepLoss job.id generation outbox? stage
    | .reply request stage => c.stepReply job.id request stage
    | .expire ticket _ => c.stepExpire job.id ticket
    | .call method params => c.stepCall job.id method params
    | .await request receiver stage => c.stepAwait job.id request receiver stage
    | .search why stage => c.stepSearch job.id why stage
    | .shutDown stage => c.stepShutdown job.id stage
    | .forward stage waiting => c.stepForward job.id waiting stage

/-- Whether a writer can go on. -/
def isWriteReady (c : Client) (peer outbox : Nat) : WriteStage → Bool
  | .idle => (c.session.outboxes[outbox]?).all fun o => o.isSealed || !o.commands.isEmpty
  | .writing _ => (c.loopback.peer? peer).all (·.canWrite c.loopback.medium)
  | .closing => true

/-- Whether the command line's loop can go on. -/
def isForwardReady (c : Client) (waiting : List JobId) : ForwardStage → Bool
  | .reading =>
    let hasLine :=
      match c.console.next with
      | .none => false
      | _ => true
    hasLine || c.console.interrupt?.isSome || c.session.lifecycle.isTerminal
  | .finishing => waiting.all fun id => (c.job? id).isNone

/-- Whether a job can go on now. -/
def isReady (c : Client) (job : Job) : Bool :=
  job.isCancelled ||
    match job.activity with
    | .read peer _ => (c.loopback.peer? peer).all (·.canRead c.loopback.medium)
    | .write peer _ outbox stage => c.isWriteReady peer outbox stage
    | .reply _ (.working until_ _) => until_ ≤ c.clock
    | .expire _ deadline => deadline ≤ c.clock
    | .await request _ .looking =>
      request.deadline ≤ c.clock || (c.session.outcome? request.ticket).isSome
    | .search _ .atGate => c.gateHolder? = some job.id
    | .search _ (.backingOff _ until_) => until_ ≤ c.clock
    | .search _ (.opening _ _ deadline resume?) =>
      deadline ≤ c.clock || resume?.any (· ≤ c.clock)
    | .shutDown (.flushing writer? deadline) =>
      deadline ≤ c.clock || writer?.all fun writer => (c.job? writer).isNone
    | .forward stage waiting => c.isForwardReady waiting stage
    | _ => true

end LspClient.Client
