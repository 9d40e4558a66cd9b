import LspClient.Client.Activity
import LspClient.CommandLine.Line
import LspClient.Loopback

/-!
# A running client

A `Client` is a session together with the jobs that work for it, the server at the other
end, the input of the command line and a clock in milliseconds. It collects in a `Report`
what can be seen from outside. The operations here are those of whoever uses the client;
they are atomic, and the jobs go on afterwards.
-/

namespace LspClient

/-- What can be seen of a client from outside, in the order in which it happened. -/
structure Report where
  records : List LogRecord := []
  invocations : List Invocation := []
  printed : List Json := []
  finished : List (JobId × JobResult) := []
  /-- What the server read: data with the number of its peer, or the end of the data. -/
  received : List (Nat × Option Bytes) := []

/-- An interrupt by the user, or the reason why interrupts cannot be heard. -/
inductive Interrupt where
  | pressed
  | unheard (reason : String)
  deriving DecidableEq, Repr

/-- What the command line reads from. -/
structure Console where
  input : Bytes := []
  hasEnded : Bool := false
  interrupt? : Option Interrupt := none

/-- What the console offers next. -/
inductive Console.Line where
  | none
  | ended
  | line (content : Bytes) (rest : Bytes)

/-- The next line, with its newline if it has one. -/
def Console.next (c : Console) : Console.Line :=
  match c.input.dropWhile (· != Framing.newline) with
  | newline :: rest => .line (c.input.takeWhile (· != Framing.newline) ++ [newline]) rest
  | [] =>
    if c.hasEnded then (if c.input.isEmpty then .ended else .line c.input []) else .none

/-- A session, what works for it, and what it meets. -/
structure Client where
  session : Session
  loopback : Loopback
  /-- Milliseconds since the start. -/
  clock : Nat := 0
  /-- Whoever made the session still holds it. -/
  isHeld : Bool := true
  /-- The search that is past the gate, and those that wait there. -/
  gateHolder? : Option JobId := none
  gateQueue : List JobId := []
  /-- The jobs in the order in which they were started. -/
  jobs : List Job := []
  nextJob : JobId := 0
  /-- The jobs that can go on, the next one first. -/
  queue : List JobId := []
  console : Console := {}
  report : Report := {}

namespace Client

/-- A client with these settings whose server is reached through this medium. -/
def create (settings : Settings) (medium : Medium) : Client where
  session := { settings, endpoint := medium.endpoint }
  loopback := { medium }

/-! ## Reporting -/

/-- Adds log records to the report. -/
def log (c : Client) (records : List LogRecord) : Client :=
  { c with report := { c.report with records := c.report.records ++ records } }

/-- Adds a handler call to the report. -/
def noteInvocation (c : Client) (invocation? : Option Invocation) : Client :=
  { c with report := { c.report with invocations := c.report.invocations ++ invocation?.toList } }

/-- Prints a line. -/
def print (c : Client) (line : Json) : Client :=
  { c with report := { c.report with printed := c.report.printed ++ [line] } }

/-- Adds the result of a job to the report. -/
def noteResult (c : Client) (id : JobId) (result : JobResult) : Client :=
  { c with report := { c.report with finished := c.report.finished ++ [(id, result)] } }

/-- What the server read, by the number of its peer. -/
def received (c : Client) : List (Nat × Option Bytes) :=
  c.loopback.medium.arranged c.report.received

/-! ## Jobs -/

/-- The job with this id, as long as it has not ended. -/
def job? (c : Client) (id : JobId) : Option Job := c.jobs.find? (·.id = id)

/-- Starts a job, whose id is the present `nextJob`. -/
def spawn (c : Client) (activity : Activity) : Client :=
  { c with jobs := c.jobs ++ [{ id := c.nextJob, activity }], nextJob := c.nextJob + 1 }

/-- Takes a job to its next point. -/
def become (c : Client) (id : JobId) (activity : Activity) : Client :=
  { c with jobs := c.jobs.map fun j => if j.id = id then { j with activity } else j }

/-- Cancels a job, if it waits at a point where that is possible. -/
def cancelJob (c : Client) (id : JobId) : Client :=
  { c with
    jobs := c.jobs.map fun j =>
      if j.id = id ∧ j.activity.isCancellable then { j with isCancelled := true } else j }

/-- Cancels jobs. -/
def cancelJobs (c : Client) (ids : List JobId) : Client := ids.foldl cancelJob c

/-- Cancels the reader of the current connection. -/
def cancelReader (c : Client) : Client :=
  match c.session.reader? with
  | some reader => c.cancelJob reader
  | none => c

/-- Whether anybody holds the session. -/
def holdsSession (c : Client) : Bool := c.isHeld || c.jobs.any (·.activity.holdsSession)

/-- Drops the session if nobody holds it any more. -/
def reap (c : Client) : Client :=
  if c.session.isDropped || c.holdsSession then c
  else { c.cancelReader with session := c.session.drop }

/-- Ends a job. -/
def finish (c : Client) (id : JobId) : Client :=
  reap { c with jobs := c.jobs.filter (·.id != id) }

/-! ## Using the session -/

/-- Changes one peer. -/
def modifyPeer (c : Client) (index : Nat) (change : Peer → Peer) : Client :=
  { c with loopback := c.loopback.modifyPeer index change }

/-- Sends a request and starts the timer of the call. -/
def request (c : Client) (id? : Option RequestId) (method : String) (params : Option Json) :
    Client × Except CallError PendingRequest :=
  match c.session.request id? method params c.clock with
  | (session, .error e) => ({ c with session }, .error e)
  | (session, .ok ticket) =>
    let deadline := c.clock + session.settings.requestTimeout.toNat
    (({ c with session }).spawn (.expire ticket deadline), .ok ⟨ticket, deadline, c.nextJob⟩)

/-- Gives up a request: its timer ends, and the call is no longer waited for. -/
def dropRequest (c : Client) (request : PendingRequest) : Client :=
  let c := c.cancelJob request.timer
  { c with session := (c.session.abandon? request.ticket).getD c.session }

/-- Sends a notification. -/
def notify (c : Client) (method : String) (params : Option Json) : Client × Except CallError Unit :=
  match c.session.notify method params with
  | .ok session => ({ c with session }, .ok ())
  | .error e => (c, .error e)

/-- Stops waiting for an id. -/
def cancel (c : Client) (id : RequestId) : Client × Bool :=
  match c.session.cancel? id with
  | some session => ({ c with session }, true)
  | none => (c, false)

/-- Stops waiting for an id and tells the server. -/
def cancelRequest (c : Client) (id : RequestId) : Client × Bool :=
  match c.session.cancelRequest? id with
  | some session => ({ c with session }, true)
  | none => (c, false)

/-- The first half of closing; also gives the writer, if there is a connection. Nothing
happens if the session is closed. -/
def close? (c : Client) : Option (Client × Option JobId) :=
  c.session.close?.map fun session => ({ c.cancelReader with session }, c.session.writer?)

/-- Lets go of the session. -/
def dropHandle (c : Client) : Client := reap { c with isHeld := false }

/-! ## Using the console -/

/-- Whether somebody reads the console. -/
def consoleIsRead (c : Client) : Bool :=
  c.jobs.any fun j =>
    match j.activity with
    | .forward .. => true
    | _ => false

/-- Types at the console. -/
def typeIn (c : Client) (data : Bytes) : Client × Bool :=
  if c.consoleIsRead && !c.console.hasEnded then
    ({ c with console := { c.console with input := c.console.input ++ data } }, true)
  else (c, false)

/-- Ends the input. -/
def endInput (c : Client) : Client := { c with console := { c.console with hasEnded := true } }

/-- Interrupts the command line. -/
def interrupt (c : Client) (interrupt : Interrupt) : Client × Bool :=
  if c.consoleIsRead then
    ({ c with console := { c.console with interrupt? := some interrupt } }, true)
  else (c, false)

end Client

end LspClient
