import LspClient.Client.Step

/-!
# Taking turns

One way to run a client: a job that can go on waits in a queue, and the job at its head
goes on until it has to wait. Jobs that have become able to go on are put at the end of
the queue, older jobs first. The clock moves only when no job can go on, and then to the
next time at which one can.

A run may go on for ever, for instance through attempts to connect without a delay, so
every run is given a number of steps that it may take at most.
-/

namespace LspClient.Client

/-- Whether a job can go on and is not queued yet. -/
def isWaking (c : Client) (job : Job) : Bool := !job.isQueued && c.isReady job

/-- Queues every job that can go on and is not queued yet. -/
def wake (c : Client) : Client :=
  match c.jobs.filter c.isWaking with
  | [] => c
  | woken =>
    { c with
      queue := c.queue ++ woken.map Job.id
      jobs := c.jobs.map fun j => if c.isWaking j then { j with isQueued := true } else j }

/-- Takes the job at the head of the queue out of it. -/
def dequeue (c : Client) (id : JobId) : Client :=
  { c with
    queue := c.queue.tail
    jobs := c.jobs.map fun j => if j.id = id then { j with isQueued := false } else j }

/-- Lets the job at the head of the queue go on, or take its place among those that wait. -/
def turn (c : Client) : Client :=
  match c.queue with
  | [] => c
  | id :: _ =>
    match c.job? id with
    | none => c.dequeue id
    | some job => if c.isReady job then (c.step job).wake else c.dequeue id

/-- Runs until every job waits, for at most `fuel` turns. -/
def runFor : Nat → Client → Client
  | 0, c => c
  | fuel + 1, c => if c.queue.isEmpty then c else runFor fuel c.turn

/-- How many turns a run takes at most. -/
def turnLimit : Nat := 1000000

/-- Runs until every job waits. -/
def run (c : Client) : Client := runFor turnLimit c.wake

/-! ## The clock -/

/-- The next time at which a job can go on by itself. -/
def nextDeadline? (c : Client) : Option Nat := (c.jobs.filterMap (·.activity.deadline?)).min?

/-- Moves the clock through everything that happens up to a time, in `fuel` moves at most. -/
def advanceFor : Nat → Nat → Client → Client
  | 0, _, c => c
  | fuel + 1, target, c =>
    match c.nextDeadline? with
    | some time =>
      if time ≤ target then advanceFor fuel target (run { c with clock := max c.clock time })
      else { c with clock := target }
    | none => { c with clock := target }

/-- Moves the clock by so many milliseconds; what happens at the last of them happens. -/
def advance (c : Client) (millis : Nat) : Client :=
  advanceFor turnLimit (Clock.due c.clock millis) c.run

/-- Lets time pass until a job has ended, in `fuel` moves of the clock at most. -/
def awaitFor : Nat → JobId → Client → Client
  | 0, _, c => c
  | fuel + 1, id, c =>
    if (c.job? id).isNone then c
    else
      match c.nextDeadline? with
      | some time => awaitFor fuel id (run { c with clock := max c.clock time })
      | none => c

/-- Lets time pass until a job has ended. -/
def awaitJob (c : Client) (id : JobId) : Client := awaitFor turnLimit id c.run

/-! ## The server sends and reads -/

/-- The server sends data to a client that reads it, of which at most `capacity` bytes can
be under way: it waits with the rest until the jobs have taken them and run as far as they
can. The parts after which a reader would only wait for the next one go as one. -/
def feed (c : Client) (capacity index : Nat) (data : Bytes) : Client :=
  if _h : data = [] then c
  else
    let wanted := ((c.loopback.peer? index).map Peer.wanted).getD 1
    let part := max 1 ((wanted + capacity - 1) / capacity * capacity)
    feed (run (c.modifyPeer index (·.send (data.take part)))) capacity index (data.drop part)
termination_by data.length
decreasing_by
  have := List.length_pos_iff.2 _h
  grind [List.length_drop]

/-- The server sends data from one of its ends. -/
def serverSend (c : Client) (index : Nat) (data : Bytes) : Client :=
  match c.loopback.medium with
  | .messages => c.modifyPeer index (·.send data)
  | .stream capacity => c.feed capacity index data

/-- The server reads what has arrived. -/
def collect (c : Client) : Client × Bool :=
  let (loopback, received) := c.loopback.collect
  ({ c with
      loopback
      report := { c.report with received := c.report.received ++ received } },
    !received.isEmpty)

/-- Runs the jobs and lets the server read until there is nothing more to do, in `fuel`
rounds at most. -/
def settleFor : Nat → Client → Client
  | 0, c => c
  | fuel + 1, c =>
    let (c, hasRead) := c.run.collect
    if hasRead then settleFor fuel c else c

/-- Runs the jobs and lets the server read until there is nothing more to do. -/
def settle (c : Client) : Client := settleFor turnLimit c

end LspClient.Client
