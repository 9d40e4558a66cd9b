import LspClient.Client.Step

/-!
# Everything that can happen to a client

A `World` is a client with whoever uses it. An `Event` is one atomic thing that happens: a
job takes its next step, a user calls an operation, the server or the medium does
something, or time passes. `World.run` lets any events happen in any order; a scheduler is
one way to choose them, and nothing is assumed of it.

Three things make this wider than any one way to run a client. A job that was cancelled
may go on for as long as it likes before it heeds that. What is between two points of a
job may be interrupted by anything. And what lies between the client and the server may
change at any time into anything else, as long as no connection and no attempt is undone:
frames may come, be lost or be put in another order, and any read, write or attempt to
connect may succeed, fail or hang.
-/

namespace LspClient

/-- Whether a job is the future of an operation that a user awaits, so that the user can
drop it. -/
def Activity.isUsers : Activity → Bool
  | .call .. | .await _ .caller _ | .await _ .keeper _ => true
  | .search .first _ | .shutDown _ => true
  | _ => false

/-- One atomic thing that happens. -/
inductive Event where
  /-- A job takes its next step, if it can go on. If it was cancelled it may heed that. -/
  | turn (id : JobId) (heeds : Bool)
  | request (id? : Option RequestId) (method : String) (params : Option Json)
  | notify (method : String) (params : Option Json)
  | cancel (id : RequestId)
  | cancelRequest (id : RequestId)
  | connect
  | call (method : String) (params : Option Json)
  | shutDown
  | forward
  /-- Handlers are registered or removed. -/
  | route (dispatcher : Dispatcher)
  /-- Whoever made the session lets go of it. -/
  | dropHandle
  /-- The user begins to await a request that was sent. -/
  | await (request : PendingRequest)
  /-- The user drops a request that nobody awaits. -/
  | dropRequest (request : PendingRequest)
  /-- The user drops the future of an operation. -/
  | abort (id : JobId)
  /-- The server, or the medium, is in another state from now on. -/
  | serve (loopback : Loopback)
  /-- Somebody types, ends the input or presses the keys that interrupt. -/
  | type (console : Console)
  | wait (millis : Nat)

/-- A client, and the requests that its user holds and does not await. -/
structure World where
  client : Client
  held : List PendingRequest := []

namespace Client

/-- The job that takes a turn, as its turn finds it: only a job that waits at a point where
it can be cancelled can heed that it was. -/
def turning? (c : Client) (id : JobId) (heeds : Bool) : Option Job :=
  (c.job? id).map fun job =>
    { job with isCancelled := job.isCancelled && heeds && job.activity.isCancellable }

/-- A job takes its next step, if it can go on. -/
def takeTurn (c : Client) (id : JobId) (heeds : Bool) : Client :=
  match c.turning? id heeds with
  | some job => if c.isReady job then c.step job else c
  | none => c

/-- A user drops the future of an operation. -/
def abortJob (c : Client) (id : JobId) : Client :=
  match c.job? id with
  | some job => if job.activity.isUsers then c.cancelJob id else c
  | none => c

end Client

namespace World

/-- What an event leads to. What takes a handle of the session does nothing if nobody has
one, and what takes a request does nothing unless the user holds it. -/
def occur (w : World) : Event → World
  | .turn id heeds => { w with client := w.client.takeTurn id heeds }
  | .request id? method params =>
    if w.client.isHeld then
      match w.client.request id? method params with
      | (client, .ok request) => { client, held := request :: w.held }
      | (client, .error _) => { w with client }
    else w
  | .notify method params =>
    if w.client.isHeld then { w with client := (w.client.notify method params).1 } else w
  | .cancel id => if w.client.isHeld then { w with client := (w.client.cancel id).1 } else w
  | .cancelRequest id =>
    if w.client.isHeld then { w with client := (w.client.cancelRequest id).1 } else w
  | .connect =>
    if w.client.isHeld then { w with client := w.client.spawn (.search .first .arriving) } else w
  | .call method params =>
    if w.client.isHeld then { w with client := w.client.spawn (.call method params) } else w
  | .shutDown =>
    if w.client.isHeld then { w with client := w.client.spawn (.shutDown .closing) } else w
  | .forward =>
    if w.client.isHeld then { w with client := w.client.spawn (.forward .reading []) } else w
  | .route dispatcher =>
    if w.client.isHeld then
      { w with client := { w.client with session := { w.client.session with dispatcher } } }
    else w
  | .dropHandle => { w with client := w.client.dropHandle }
  | .await request =>
    if request ∈ w.held then
      { client := w.client.spawn (.await request .caller .looking), held := w.held.erase request }
    else w
  | .dropRequest request =>
    if request ∈ w.held then
      { client := w.client.dropRequest request, held := w.held.erase request }
    else w
  | .abort id => { w with client := w.client.abortJob id }
  | .serve loopback =>
    if w.client.loopback.peers.length ≤ loopback.peers.length ∧
        loopback.attempts = w.client.loopback.attempts then
      { w with client := { w.client with loopback } }
    else w
  | .type console => { w with client := { w.client with console } }
  | .wait millis => { w with client := { w.client with clock := w.client.clock + millis } }

/-- The most calls that can be outstanding: their number is counted in 64 bits. -/
def mostCalls : Nat := 2 ^ 64 - 1

/-- Lets an event happen. There is no room for more than the most calls that can be
counted, so what would register one more never comes about. -/
def perform (w : World) (event : Event) : World :=
  let next := w.occur event
  if next.client.session.correlator.size ≤ mostCalls then next else w

/-- Lets events happen one after another. -/
def performAll (w : World) (events : List Event) : World := events.foldl perform w

/-- What events lead to from a new client. -/
def run (settings : Settings) (medium : Medium) (events : List Event) : World :=
  performAll { client := Client.create settings medium } events

/-- A user connects, and the first attempt succeeds at once. -/
def firstConnection : List Event :=
  [.connect, .turn 0 false, .turn 0 false, .turn 0 false, .turn 0 false, .turn 0 false,
    .turn 0 false]

/-- What holds of a new client and is kept by every event holds after any events. -/
theorem run_induction {settings : Settings} {medium : Medium} {P : World → Prop}
    (start : P { client := Client.create settings medium })
    (kept : ∀ w event, P w → P (w.perform event)) (events : List Event) :
    P (run settings medium events) := by
  suffices ∀ w, P w → P (w.performAll events) from this _ start
  induction events with
  | nil => exact fun _ h => h
  | cons event rest ih => exact fun w h => ih _ (kept w event h)

/-- The table never has more calls than can be counted. -/
theorem room_perform {w : World} (room : w.client.session.correlator.size ≤ mostCalls)
    (event : Event) : (w.perform event).client.session.correlator.size ≤ mostCalls := by
  unfold perform
  dsimp only
  split
  · next room => exact room
  · exact room

theorem room_performAll {w : World} (room : w.client.session.correlator.size ≤ mostCalls)
    (events : List Event) :
    (w.performAll events).client.session.correlator.size ≤ mostCalls := by
  induction events generalizing w with
  | nil => exact room
  | cons event rest ih => exact ih (room_perform room event)

theorem size_le_mostCalls (settings : Settings) (medium : Medium) (events : List Event) :
    (run settings medium events).client.session.correlator.size ≤ mostCalls :=
  run_induction (P := fun w => w.client.session.correlator.size ≤ mostCalls) (Nat.zero_le _)
    (fun _ event room => room_perform room event) events

/-! ## One event after another -/

theorem run_append (settings : Settings) (medium : Medium) (events more : List Event) :
    run settings medium (events ++ more) = (run settings medium events).performAll more :=
  List.foldl_append

theorem performAll_concat (w : World) (events : List Event) (event : Event) :
    w.performAll (events ++ [event]) = (w.performAll events).perform event :=
  List.foldl_append

theorem run_concat (settings : Settings) (medium : Medium) (events : List Event)
    (event : Event) : run settings medium (events ++ [event]) =
      (run settings medium events).perform event := performAll_concat ..

/-- What events give, one after another. -/
def gathered {α : Type} (gives : World → Event → List α) (w : World) : List Event → List α
  | [] => []
  | event :: rest => gives w event ++ gathered gives (w.perform event) rest

theorem gathered_concat {α : Type} (gives : World → Event → List α) (w : World)
    (events : List Event) (event : Event) : gathered gives w (events ++ [event]) =
      gathered gives w events ++ gives (w.performAll events) event := by
  induction events generalizing w with
  | nil => exact List.append_nil _
  | cons first rest ih =>
    show gives w first ++ gathered gives (w.perform first) (rest ++ [event]) = _
    rw [ih, ← List.append_assoc]
    rfl

end World

end LspClient
