import LspClient.Session.Basic

/-!
# What runs beside each other

A client runs jobs: the reader and the writer of a connection, the replies to the
server's requests, the timers and the waiting of calls, connecting, closing, and the
command line. An `Activity` is the point that a job has reached, with everything it needs
to go on; between two points a job does one atomic step. At some points a job waits, and
only there it can be cancelled.
-/

namespace LspClient

/-- What the caller of a request holds: the ticket, the time it will wait until, and the
job that fails the call at that time even if nobody looks. -/
structure PendingRequest where
  ticket : Ticket
  deadline : Nat
  timer : JobId
  deriving DecidableEq, Repr

/-- A request that nobody has looked at yet, as a description shows it. -/
def PendingRequest.describe (p : PendingRequest) : String :=
  "PendingRequest \x7b id: " ++ p.ticket.id.describe ++ ", finished: false, .. \x7d"

/-- Where an outcome goes. -/
inductive Receiver where
  /-- It is the result of the job. -/
  | caller
  /-- It is the result of the job, which keeps the session while it waits. -/
  | keeper
  /-- It is printed under the id that the input line gave. -/
  | printer (echo : Json)

/-- The points of a writer. -/
inductive WriteStage where
  /-- Waiting for a command. -/
  | idle
  /-- Waiting for room for what is left of a message. -/
  | writing (left : Bytes)
  | closing

/-- The points of a job that has lost its connection. -/
inductive LossStage where
  | reporting
  /-- The session is degraded; it has to be closed, or a new connection looked for. -/
  | deciding
  | closing
  | draining
  deriving DecidableEq, Repr

/-- The points of a reply. -/
inductive ReplyStage where
  | arriving
  | working (until_ : Nat) (ending : Ending)
  | replying (response : Response)

/-- The points of whoever waits for a call. -/
inductive AwaitStage where
  /-- About to look for the outcome, and at the clock if there is none. -/
  | looking
  /-- There was no outcome at the deadline; about to give the call up. -/
  | late
  deriving DecidableEq, Repr

/-- Why a connection is looked for. -/
inductive Search where
  /-- The session is to get its first connection. -/
  | first
  /-- The session has lost its connection. -/
  | again
  deriving DecidableEq, Repr

/-- The state in which a session stays while a connection is looked for. -/
def Search.state : Search → Lifecycle
  | .first => .connecting
  | .again => .degraded

/-- How many attempts a search makes at most. -/
def Search.attempts (settings : Settings) : Search → Nat
  | .first => settings.connectAttempts
  | .again => settings.maxReconnectAttempts.toNat

/-- Which delay precedes an attempt, counted from one; zero stands for no delay. The first
attempt of a first search is made at once. -/
def Search.retry (attempt : Nat) : Search → Nat
  | .first => attempt - 1
  | .again => attempt

/-- The points of a search. One search at a time is past the gate. -/
inductive SearchStage where
  | arriving
  | atGate
  | backingOff (attempt until_ : Nat)
  /-- About to see whether the session is still in the right state for an attempt. -/
  | checking (attempt : Nat)
  /-- The session was in the right state; about to start the attempt. -/
  | starting (attempt : Nat)
  /-- The attempt goes on at a time of its own, if ever, and is given up at its deadline. -/
  | opening (attempt number deadline : Nat) (resume? : Option Nat)
  | installing (attempt peer : Nat)
  | closing (error : SessionError)
  | draining (error : SessionError)
  /-- The search is over, with this error if it has failed, and still holds the gate. -/
  | leaving (error? : Option SessionError)
  deriving DecidableEq, Repr

/-- Whether a search waits at this point. -/
def SearchStage.isWaiting : SearchStage → Bool
  | .arriving | .atGate | .backingOff .. | .opening .. => true
  | _ => false

/-- The points of a shutdown. -/
inductive ShutdownStage where
  | closing
  | draining (writer? : Option JobId)
  /-- Waiting for the writer to end. -/
  | flushing (writer? : Option JobId) (deadline : Nat)
  deriving DecidableEq, Repr

/-- The points of the command line's loop. -/
inductive ForwardStage where
  | reading
  /-- The input has ended; answers are still to come. -/
  | finishing
  deriving DecidableEq, Repr

/-- What a job is about to do. -/
inductive Activity where
  | read (peer generation : Nat)
  | write (peer generation outbox : Nat) (stage : WriteStage)
  /-- A reader or a writer (with its outbox) has lost the connection. -/
  | lose (generation : Nat) (outbox? : Option Nat) (stage : LossStage)
  | reply (request : Request) (stage : ReplyStage)
  | expire (ticket : Ticket) (deadline : Nat)
  | call (method : String) (params : Option Json)
  | await (request : PendingRequest) (receiver : Receiver) (stage : AwaitStage)
  | search (why : Search) (stage : SearchStage)
  | shutDown (stage : ShutdownStage)
  /-- The command line's loop, with the jobs that wait for answers. -/
  | forward (stage : ForwardStage) (waiting : List JobId)

namespace Activity

/-- Whether the job keeps the session from being dropped. -/
def holdsSession : Activity → Bool
  | .lose .. | .call .. | .search .. | .shutDown .. | .forward .. => true
  | .await _ .keeper _ => true
  | _ => false

/-- Whether the job waits at a point where it can be cancelled. Of the searches that is only
the first one: nobody can reach the others. -/
def isCancellable : Activity → Bool
  | .read .. | .expire .. | .call .. | .await _ _ .looking => true
  | .search .first stage => stage.isWaiting
  | .shutDown .closing | .shutDown (.flushing ..) => true
  | _ => false

/-- The next time at which the job can go on by itself. -/
def deadline? : Activity → Option Nat
  | .reply _ (.working until_ _) => some until_
  | .expire _ deadline => some deadline
  | .await request _ .looking => some request.deadline
  | .search _ (.backingOff _ until_) => some until_
  | .search _ (.opening _ _ deadline (some resume)) => some (min deadline resume)
  | .search _ (.opening _ _ deadline none) => some deadline
  | .shutDown (.flushing _ deadline) => some deadline
  | _ => none

end Activity

/-- Why the command line's loop ended early. -/
inductive ForwardError where
  | notText (fault : Utf8.Fault)
  | lostConnection
  deriving DecidableEq, Repr

/-- The wording of the reason. -/
def ForwardError.message : ForwardError → String
  | .notText fault => "reading stdin: " ++ fault.message
  | .lostConnection => "lost the connection to the language server"

/-- What a job led to. -/
inductive JobResult where
  | called (outcome : Outcome)
  | connected (result : Except SessionError Unit)
  | shutDown
  | forwarded (result : Except ForwardError Unit)

/-- One of the jobs that run beside each other. -/
structure Job where
  id : JobId
  activity : Activity
  /-- The job will end at its next step. -/
  isCancelled : Bool := false
  /-- The job waits in the queue for its turn. -/
  isQueued : Bool := false

end LspClient
