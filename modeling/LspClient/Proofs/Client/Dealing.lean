import LspClient.Proofs.Client.Steps
import LspClient.Proofs.Session.Dealing

/-!
# What an event does to the session

`World.dealing` reads off an event what kind of thing it does to the session, and
`World.comes_perform` says that this is all that it does, but that the session may be
dropped at the end, when the last one who held it has gone. `World.sends?` is the message
that an event sends, of whatever kind it is and whoever sends it.
-/

namespace LspClient

namespace Client

/-! ## What a job is about to do -/

/-- What the next input line asks the session for. -/
def lineErrand? (c : Client) : Option Errand :=
  match c.console.next with
  | .line content _ =>
    match Utf8.decode content with
    | .ok line =>
      match CommandLine.readLine line with
      | .ok (some (.notification method params)) => some (.notify method params)
      | .ok (some (.request _ method params)) => some (.request none method params)
      | _ => none
    | .error _ => none
  | _ => none

/-- What the next step of a job does to the session, if it does not heed that it was
cancelled. -/
def dealingAt (c : Client) (job : Job) : Dealing :=
  match job.activity with
  | .read .. =>
    match c.incoming? job with
    | some _ => .calls
    | none => .link
  | .write _ _ outbox .idle => .take outbox
  | .reply _ (.replying response) =>
    if c.session.isDropped then .link else .errand (.respond response)
  | .expire .. | .await .. => .calls
  | .lose _ _ .draining | .search _ (.draining _) | .shutDown (.draining _) => .drain
  | .call method params => .errand (.request none method params)
  | .search why (.installing ..) => if c.session.lifecycle = why.state then .install else .link
  | .forward .reading _ =>
    match c.lineErrand? with
    | some errand => .errand errand
    | none => .link
  | _ => .link

/-- What the next step of a job does to the session. A cancelled job does nothing to it, but
that whoever waits for a call gives up the call. -/
def dealing (c : Client) (job : Job) : Dealing :=
  if job.isCancelled then
    match job.activity with
    | .await .. => .calls
    | _ => .link
  else c.dealingAt job

/-- What is known of a job that deals with the session in this way. -/
def Dealer (c : Client) (job : Job) : Dealing → Prop
  | .take outbox => ∃ peer generation, job.activity = .write peer generation outbox .idle
  | .install => ∃ why attempt peer, job.activity = .search why (.installing attempt peer) ∧
      c.session.lifecycle = why.state
  | .errand (.request id? method params) => job.isCancelled = false ∧
      (id? = none ∧ job.activity = .call method params ∨ ∃ waiting,
        job.activity = .forward .reading waiting ∧
          c.lineErrand? = some (.request id? method params))
  | _ => True

theorem dealer (c : Client) (job : Job) : c.Dealer job (c.dealing job) := by
  unfold dealing
  split
  · cases job.activity <;> trivial
  · next goesOn =>
    unfold dealingAt
    cases activity : job.activity with
    | read =>
      dsimp only
      cases c.incoming? job <;> trivial
    | write peer generation outbox stage =>
      cases stage with
      | idle => exact ⟨peer, generation, activity⟩
      | _ => trivial
    | lose _ _ stage | shutDown stage => cases stage <;> trivial
    | reply _ stage =>
      cases stage with
      | replying =>
        dsimp only
        cases c.session.isDropped <;> trivial
      | _ => trivial
    | expire | await => trivial
    | call => exact ⟨Bool.eq_false_iff.mpr goesOn, .inl ⟨rfl, activity⟩⟩
    | search why stage =>
      cases stage with
      | installing attempt peer =>
        dsimp only
        by_cases expected : c.session.lifecycle = why.state
        · rw [if_pos expected]
          exact ⟨why, attempt, peer, activity, expected⟩
        · rw [if_neg expected]
          trivial
      | _ => trivial
    | forward stage waiting =>
      cases stage with
      | finishing => trivial
      | reading =>
        dsimp only
        cases asks : c.lineErrand? with
        | none => trivial
        | some errand =>
          cases errand with
          | request => exact ⟨Bool.eq_false_iff.mpr goesOn, .inr ⟨waiting, activity, asks⟩⟩
          | _ => trivial

/-! ## What it does -/

variable {c d : Client} {id : JobId} {dealing : Dealing}

/-- This is what is done to the session from one client to the next; nothing more, but that it
may be dropped if nobody holds it any more. -/
def Comes (c : Client) (dealing : Dealing) (c' : Client) : Prop :=
  ∃ t, c.session.Deals c.clock dealing t ∧
    (c'.session = t ∨ t.isDropped = false ∧ c'.isHeld = false ∧ c'.session = t.drop)

theorem comes_of_deals (h : c.session.Deals c.clock dealing d.session) : c.Comes dealing d :=
  ⟨d.session, h, .inl rfl⟩

theorem comes_rest (idle : ∀ errand, dealing ≠ .errand errand) (same : d.session = c.session) :
    c.Comes dealing d :=
  ⟨c.session, .rest idle, .inl same⟩

theorem comes_reap (h : c.session.Deals c.clock dealing d.session) : c.Comes dealing d.reap := by
  refine ⟨d.session, h, ?_⟩
  unfold reap
  split
  · exact .inl rfl
  · next free =>
    rw [Bool.or_eq_true, not_or, Bool.not_eq_true, Bool.not_eq_true] at free
    have gone : d.isHeld = false := (Bool.or_eq_false_iff.mp free.2).1
    refine .inr ⟨free.1, ?_, rfl⟩
    show d.cancelReader.isHeld = false
    unfold cancelReader
    split <;> exact gone

theorem comes_finish (h : c.session.Deals c.clock dealing d.session) :
    c.Comes dealing (d.finish id) :=
  comes_reap (d := { d with jobs := d.jobs.filter (·.id != id) }) h

theorem comes_endLoss {outbox? : Option Nat}
    (h : c.session.Deals c.clock dealing (d.session.unman outbox?)) :
    c.Comes dealing (d.endLoss id outbox?) :=
  comes_finish (d := { d with session := d.session.unman outbox? }) h

@[simp] theorem session_cancelJobs (c : Client) (ids : List JobId) :
    (c.cancelJobs ids).session = c.session := congrArg Outline.session (outline_cancelJobs c ids)

@[simp] theorem session_openGate (c : Client) : c.openGate.session = c.session := by
  unfold openGate
  split <;> rfl

theorem deals_of_close? {closed : Client} {writer? : Option JobId}
    (h : c.close? = some (closed, writer?)) : c.session.Deals c.clock .link closed.session := by
  obtain ⟨s, closes, same⟩ := outline_close? h
  have session : closed.session = s := congrArg Outline.session same
  rw [session]
  exact .closed closes

/-! ## One lemma for each step -/

theorem comes_stepLoss {job : Job} {generation : Nat} {outbox? : Option Nat} {stage : LossStage}
    (activity : job.activity = .lose generation outbox? stage) :
    c.Comes (c.dealingAt job) (c.stepLoss job.id generation outbox? stage) := by
  unfold dealingAt stepLoss
  rw [activity]
  cases stage with
  | reporting =>
    dsimp only
    split
    · exact comes_endLoss (.unmanned outbox?)
    · next session lost => exact comes_of_deals (.lost lost)
  | deciding =>
    dsimp only
    split
    · exact comes_rest nofun rfl
    · exact comes_endLoss (.unmanned outbox?)
  | closing =>
    dsimp only
    split
    · next closed writer? done =>
      have deals := deals_of_close? done
      exact comes_of_deals deals
    · exact comes_endLoss (.unmanned outbox?)
  | draining => exact comes_endLoss (d := { c with session := c.session.drain }) (.drained outbox?)

theorem comes_stepRead {job : Job} {peer generation : Nat}
    (activity : job.activity = .read peer generation) (goesOn : job.isCancelled = false) :
    c.Comes (c.dealingAt job) (c.stepRead job.id peer generation) := by
  unfold dealingAt incoming? stepRead
  rw [activity, goesOn]
  dsimp only
  cases c.loopback.peer? peer with
  | none =>
    rw [ite_self]
    exact comes_finish Session.deals_link
  | some p =>
    have session (p : Peer) : (c.modifyPeer peer fun _ => p).session = c.session := rfl
    simp only [session, Bool.false_or]
    by_cases dropped : c.session.isDropped = true
    · rw [if_pos dropped, if_pos dropped]
      exact comes_finish Session.deals_link
    · rw [if_neg dropped, if_neg dropped]
      cases (p.read c.loopback.medium).2 with
      | nothing => exact comes_rest nofun rfl
      | message frame =>
        refine comes_of_deals ?_
        dsimp only
        cases (c.session.receive frame).2.request? <;> exact Session.deals_receive ..
      | ended => exact comes_rest nofun rfl
      | broken e => exact comes_rest nofun rfl

theorem comes_stepWrite {job : Job} {peer generation outbox : Nat} {stage : WriteStage}
    (activity : job.activity = .write peer generation outbox stage) :
    c.Comes (c.dealingAt job) (c.stepWrite job.id peer generation outbox stage) := by
  unfold dealingAt stepWrite
  rw [activity]
  cases stage with
  | idle =>
    dsimp only
    split
    · exact comes_finish (.rest nofun)
    · next box found =>
      split
      · next frame rest head => exact comes_of_deals (.taken found head)
      · next rest head => exact comes_of_deals (.taken found head)
      · split
        · exact comes_rest nofun rfl
        · exact comes_rest nofun rfl
  | writing left =>
    dsimp only
    split
    · exact comes_endLoss (.unmanned (some outbox))
    · split
      · exact comes_rest nofun rfl
      · split
        · exact comes_endLoss (.unmanned (some outbox))
        · exact comes_rest nofun rfl
  | closing => exact comes_endLoss (.unmanned (some outbox))

theorem comes_stepReply {job : Job} {request : Request} {stage : ReplyStage}
    (activity : job.activity = .reply request stage) :
    c.Comes (c.dealingAt job) (c.stepReply job.id request stage) := by
  unfold dealingAt stepReply
  rw [activity]
  cases stage with
  | arriving =>
    dsimp only
    split
    · exact comes_rest nofun rfl
    · exact comes_finish Session.deals_link
    · exact comes_rest nofun rfl
  | working until_ ending => exact comes_rest nofun rfl
  | replying response =>
    dsimp only
    split
    · exact comes_finish Session.deals_link
    · have deals : c.session.Deals c.clock (.errand (.respond response))
          ((c.session.send (.response response)).toOption.getD c.session) := .carriedOut _
      split
      · next session sent =>
        rw [sent] at deals
        exact comes_finish (d := { c with session }) deals
      · next e refused =>
        rw [refused] at deals
        exact comes_finish deals

theorem comes_stepExpire {ticket : Ticket} : c.Comes .calls (c.stepExpire id ticket) := by
  unfold stepExpire
  split
  · next session expired =>
    exact comes_finish (d := { c with session }.log [timeoutRecord ticket])
      (Session.deals_expire? expired)
  · exact comes_finish Session.deals_calls

theorem comes_conclude {request : PendingRequest} {receiver : Receiver} {outcome : Outcome}
    (h : c.session.Deals c.clock dealing d.session) :
    c.Comes dealing (d.conclude id request receiver outcome) := by
  unfold conclude
  dsimp only
  split
  · exact comes_finish (d := (d.cancelJob request.timer).print _) h
  · exact comes_finish (d := (d.cancelJob request.timer).noteResult id _) h

theorem comes_stepAwait {request : PendingRequest} {receiver : Receiver} {stage : AwaitStage} :
    c.Comes .calls (c.stepAwait id request receiver stage) := by
  unfold stepAwait
  cases stage with
  | looking =>
    dsimp only
    split
    · exact comes_conclude Session.deals_calls
    · split <;> exact comes_rest nofun rfl
  | late =>
    dsimp only
    split
    · next session abandoned =>
      exact comes_conclude (d := { c with session }.log [timeoutRecord request.ticket])
        (Session.deals_abandon? abandoned)
    · exact comes_conclude Session.deals_calls

theorem session_request (c : Client) (id? : Option RequestId) (method : String)
    (params : Option Json) : (c.request id? method params).1.session =
      (c.session.request id? method params c.clock).1 := by
  unfold request
  split
  · next same => exact (congrArg Prod.fst same).symm
  · next same => exact (congrArg Prod.fst same).symm

theorem deals_request (c : Client) (id? : Option RequestId) (method : String)
    (params : Option Json) : c.session.Deals c.clock (.errand (.request id? method params))
      (c.request id? method params).1.session := by
  rw [session_request]
  exact .carriedOut _

theorem deals_notify (c : Client) (method : String) (params : Option Json) :
    c.session.Deals c.clock (.errand (.notify method params))
      (c.notify method params).1.session := by
  have deals : c.session.Deals c.clock (.errand (.notify method params))
      ((c.session.notify method params).toOption.getD c.session) := .carriedOut _
  unfold notify
  split
  · next sent =>
    rw [sent] at deals
    exact deals
  · next refused =>
    rw [refused] at deals
    exact deals

theorem comes_stepCall {method : String} {params : Option Json} :
    c.Comes (.errand (.request none method params)) (c.stepCall id method params) := by
  have deals := deals_request c none method params
  unfold stepCall
  split
  · next c' request done =>
    rw [done] at deals
    exact comes_of_deals deals
  · next c' e done =>
    rw [done] at deals
    exact comes_finish (d := c'.noteResult id _) deals

@[simp] theorem session_toAttempt (c : Client) (id : JobId) (why : Search) (attempt : Nat) :
    (c.toAttempt id why attempt).session = c.session := by
  unfold toAttempt
  split <;> rfl

@[simp] theorem session_failSearch (c : Client) (id : JobId) (why : Search)
    (error : SessionError) : (c.failSearch id why error).session = c.session := by
  unfold failSearch
  split <;> rfl

@[simp] theorem session_nextAttempt (c : Client) (id : JobId) (why : Search) (made : Nat)
    (last : ConnectError) : (c.nextAttempt id why made last).session = c.session := by
  unfold nextAttempt
  dsimp only
  split
  · exact session_toAttempt ..
  · exact session_failSearch ..

@[simp] theorem session_failAttempt (c : Client) (id : JobId) (why : Search) (attempt : Nat)
    (error : ConnectError) : (c.failAttempt id why attempt error).session = c.session :=
  session_nextAttempt ..

theorem comes_endSearch {why : Search} {error? : Option SessionError} :
    c.Comes .link (c.endSearch id why error?) := by
  have opened : c.session.Deals c.clock .link c.openGate.session := by
    rw [session_openGate]
    exact Session.deals_link
  unfold endSearch
  cases why with
  | first => exact comes_finish (d := c.openGate.noteResult id _) opened
  | again => exact comes_finish opened

theorem comes_giveUpSearch : c.Comes .link (c.giveUpSearch id) := by
  unfold giveUpSearch
  split
  · refine comes_finish ?_
    rw [session_openGate]
    exact Session.deals_link
  · exact comes_finish Session.deals_link

theorem comes_stepSearch {job : Job} {why : Search} {stage : SearchStage}
    (activity : job.activity = .search why stage) :
    c.Comes (c.dealingAt job) (c.stepSearch job.id why stage) := by
  unfold dealingAt stepSearch
  rw [activity]
  cases stage with
  | arriving =>
    dsimp only
    split <;> exact comes_rest nofun rfl
  | atGate =>
    dsimp only
    split
    · exact comes_rest nofun (session_nextAttempt ..)
    · exact comes_rest nofun rfl
  | backingOff attempt until_ => exact comes_rest nofun rfl
  | checking attempt =>
    dsimp only
    split
    · exact comes_rest nofun rfl
    · exact comes_rest nofun (session_failSearch ..)
  | starting attempt => exact comes_rest nofun rfl
  | opening attempt number deadline resume? =>
    dsimp only
    split
    · split
      · exact comes_rest nofun rfl
      · exact comes_rest nofun (session_failAttempt ..)
    · exact comes_rest nofun (session_failAttempt ..)
  | installing attempt peer =>
    dsimp only
    by_cases expected : c.session.lifecycle = why.state
    · rw [if_pos expected]
      split
      · next session done => exact comes_of_deals (.installed done)
      · next refused => exact absurd expected (Session.install_eq_error refused).1
    · rw [if_neg expected]
      split
      · next session done => exact absurd (Session.install_eq_ok_iff.mp done).1 expected
      · exact comes_rest nofun (session_failSearch ..)
  | closing error =>
    dsimp only
    split
    · next closed writer? done =>
      have deals := deals_of_close? done
      exact comes_of_deals deals
    · exact comes_rest nofun rfl
  | draining error => exact comes_of_deals (.drained none)
  | leaving error? => exact comes_endSearch

theorem comes_stepShutdown {job : Job} {stage : ShutdownStage}
    (activity : job.activity = .shutDown stage) :
    c.Comes (c.dealingAt job) (c.stepShutdown job.id stage) := by
  unfold dealingAt stepShutdown
  rw [activity]
  cases stage with
  | closing =>
    dsimp only
    split
    · next closed writer? done =>
      have deals := deals_of_close? done
      exact comes_of_deals deals
    · exact comes_finish (d := c.noteResult job.id _) Session.deals_link
  | draining writer? => exact comes_of_deals (.drained none)
  | flushing writer? deadline => exact comes_finish (d := c.noteResult job.id _) Session.deals_link

theorem comes_endForward {ended : List JobId} {result : Except ForwardError Unit} :
    c.Comes .link (c.endForward id ended result) := by
  unfold endForward
  refine comes_finish ?_
  show c.session.Deals c.clock .link (c.cancelJobs ended).session
  rw [session_cancelJobs]
  exact Session.deals_link

/-- What an input line asks for is done. -/
theorem deals_takeLine (c : Client) (line : List Char) :
    match CommandLine.readLine line with
    | .ok (some (.notification method params)) =>
      c.session.Deals c.clock (.errand (.notify method params)) (c.takeLine line).1.session
    | .ok (some (.request _ method params)) =>
      c.session.Deals c.clock (.errand (.request none method params)) (c.takeLine line).1.session
    | _ => (c.takeLine line).1.session = c.session := by
  unfold takeLine
  split
  · next method params read =>
    rw [read]
    have deals := deals_notify c method params
    unfold sendLine
    dsimp only
    split
    · next done =>
      rw [done] at deals
      exact deals
    · next done =>
      rw [done] at deals
      exact deals
  · next echo method params read =>
    rw [read]
    have deals := deals_request c none method params
    unfold sendLine
    dsimp only
    split
    · next done =>
      rw [done] at deals
      exact deals
    · next done =>
      rw [done] at deals
      exact deals
  · next other notification request =>
    split
    · rfl
    · next outgoing read =>
      cases outgoing with
      | notification method params => exact absurd read (notification method params)
      | request echo method params => exact absurd read (request echo method params)
    · rfl

theorem comes_stepForward {job : Job} {stage : ForwardStage} {waiting : List JobId}
    (activity : job.activity = .forward stage waiting) :
    c.Comes (c.dealingAt job) (c.stepForward job.id waiting stage) := by
  unfold dealingAt stepForward
  rw [activity]
  cases stage with
  | reading =>
    unfold lineErrand?
    dsimp only
    cases c.console.next with
    | none =>
      dsimp only
      unfold stepIdleForward
      split
      · exact comes_endForward (c := c.log _)
      · split
        · exact comes_endForward
        · exact comes_rest nofun rfl
    | ended => exact comes_rest nofun rfl
    | line content rest =>
      let taken : Client := { c with console := { c.console with input := rest } }
      dsimp only
      cases Utf8.decode content with
      | error fault => exact comes_endForward (c := taken)
      | ok line =>
        dsimp only
        have deals := deals_takeLine taken line
        split at deals
        · exact comes_of_deals deals
        · exact comes_of_deals deals
        · exact comes_rest nofun deals
  | finishing => exact comes_endForward

/-! ## Any step -/

theorem comes_dropRequest {request : PendingRequest} :
    c.session.Deals c.clock .calls (c.dropRequest request).session := by
  show c.session.Deals c.clock .calls ((c.session.abandon? request.ticket).getD c.session)
  cases abandoned : c.session.abandon? request.ticket with
  | none => exact Session.deals_calls
  | some session => exact Session.deals_abandon? abandoned

theorem comes_stepCancelled (job : Job) :
    c.Comes (match job.activity with
      | .await .. => .calls
      | _ => .link) (c.stepCancelled job) := by
  unfold stepCancelled
  cases job.activity with
  | read peer generation =>
    exact comes_finish (d := c.modifyPeer peer Peer.unhear) Session.deals_link
  | await request _ _ => exact comes_finish (d := c.dropRequest request) comes_dropRequest
  | search why stage => exact comes_giveUpSearch
  | write | lose | reply | expire | call | shutDown | forward =>
    exact comes_finish Session.deals_link

/-- The step of a job does to the session what it is about to do. -/
theorem comes_step (job : Job) : c.Comes (c.dealing job) (c.step job) := by
  unfold step Client.dealing
  split
  · exact comes_stepCancelled job
  · next goesOn =>
    cases activity : job.activity with
    | read peer generation => exact comes_stepRead activity (Bool.eq_false_iff.mpr goesOn)
    | write peer generation outbox stage => exact comes_stepWrite activity
    | reply request stage => exact comes_stepReply activity
    | search why stage => exact comes_stepSearch activity
    | forward stage waiting => exact comes_stepForward activity
    | lose generation outbox? stage => exact comes_stepLoss activity
    | expire ticket deadline =>
      unfold dealingAt
      rw [activity]
      exact comes_stepExpire
    | call method params =>
      unfold dealingAt
      rw [activity]
      exact comes_stepCall
    | await request receiver stage =>
      unfold dealingAt
      rw [activity]
      exact comes_stepAwait
    | shutDown stage => exact comes_stepShutdown activity

end Client

namespace World

variable {w : World} {event : Event}

/-- The job that goes on at an event. -/
def acting? (w : World) : Event → Option Job
  | .turn id heeds => (w.client.turning? id heeds).filter w.client.isReady
  | _ => none

/-- Whether there is room for the calls that are outstanding after an event. -/
def hasRoom (w : World) (event : Event) : Bool :=
  (w.occur event).client.session.correlator.size ≤ mostCalls

/-- What an event does to the session. -/
def dealing (w : World) (event : Event) : Dealing :=
  if w.hasRoom event then
    match event with
    | .turn .. =>
      match w.acting? event with
      | some job => w.client.dealing job
      | none => .link
    | .request id? method params =>
      if w.client.isHeld then .errand (.request id? method params) else .link
    | .notify method params => if w.client.isHeld then .errand (.notify method params) else .link
    | .cancelRequest id => if w.client.isHeld then .errand (.cancelRequest id) else .link
    | .cancel _ | .dropRequest _ => .calls
    | .route _ => .handlers
    | _ => .link
  else .link

/-- The errand that an event does for whoever asks. -/
def errand? (w : World) (event : Event) : Option Errand :=
  match w.dealing event with
  | .errand errand => some errand
  | _ => none

/-- The message that is sent at an event: it goes into the current outbox. -/
def sends? (w : World) (event : Event) : Option Envelope :=
  (w.errand? event).bind (w.client.session.message? w.client.clock)

/-- If a job goes on, its step is all that happens. -/
theorem occur_of_acting {id : JobId} {heeds : Bool} :
    w.occur (.turn id heeds) =
      match w.acting? (.turn id heeds) with
      | some job => { w with client := w.client.step job }
      | none => w := by
  unfold occur acting? Client.takeTurn
  dsimp only
  cases w.client.turning? id heeds with
  | none => rfl
  | some job =>
    rw [Option.filter_some]
    dsimp only
    cases w.client.isReady job <;> rfl

theorem perform_of_room (room : w.hasRoom event = true) : w.perform event = w.occur event :=
  if_pos (of_decide_eq_true room)

theorem perform_of_no_room (full : w.hasRoom event = false) : w.perform event = w :=
  if_neg (of_decide_eq_false full)

theorem comes_occur (room : w.hasRoom event = true) :
    w.client.Comes (w.dealing event) (w.occur event).client := by
  -- what takes a handle does nothing if nobody has one
  have guarded {w' : World} {errand : Errand}
      (h : w.client.Comes (.errand errand) w'.client) :
      w.client.Comes (if w.client.isHeld then .errand errand else .link)
        (if w.client.isHeld then w' else w).client := by
    split
    · exact h
    · exact Client.comes_rest nofun rfl
  have idle {dealing : Dealing} {w' : World} (none : ∀ errand, dealing ≠ .errand errand)
      (h : w'.client.session = w.client.session) :
      w.client.Comes dealing (if w.client.isHeld then w' else w).client := by
    split
    · exact Client.comes_rest none h
    · exact Client.comes_rest none rfl
  unfold dealing
  rw [if_pos room]
  cases event with
  | turn id heeds =>
    rw [occur_of_acting]
    cases w.acting? (.turn id heeds) with
    | none => exact Client.comes_rest nofun rfl
    | some job => exact Client.comes_step job
  | request id? method params =>
    refine guarded (Client.comes_of_deals ?_)
    have deals := Client.deals_request w.client id? method params
    split
    · next done =>
      rw [done] at deals
      exact deals
    · next done =>
      rw [done] at deals
      exact deals
  | notify method params => exact guarded (Client.comes_of_deals (Client.deals_notify ..))
  | cancelRequest id =>
    refine guarded (Client.comes_of_deals ?_)
    have deals : w.client.session.Deals w.client.clock (.errand (.cancelRequest id))
        ((w.client.session.cancelRequest? id).getD w.client.session) := .carriedOut _
    show w.client.session.Deals _ _ (w.client.cancelRequest id).1.session
    unfold Client.cancelRequest
    split
    · next done =>
      rw [done] at deals
      exact deals
    · next done =>
      rw [done] at deals
      exact deals
  | cancel id =>
    unfold occur
    dsimp only
    split
    · unfold Client.cancel
      split
      · next session done => exact Client.comes_of_deals (Session.deals_cancel? done)
      · exact Client.comes_rest nofun rfl
    · exact Client.comes_rest nofun rfl
  | dropRequest request =>
    unfold occur
    dsimp only
    split
    · exact Client.comes_of_deals Client.comes_dropRequest
    · exact Client.comes_rest nofun rfl
  | route dispatcher =>
    unfold occur
    dsimp only
    split
    · exact Client.comes_of_deals (.routed dispatcher)
    · exact Client.comes_rest nofun rfl
  | dropHandle =>
    exact Client.comes_reap (d := { w.client with isHeld := false }) Session.deals_link
  | connect | call | shutDown | forward => exact idle nofun rfl
  | await request | serve loopback =>
    unfold occur
    dsimp only
    split <;> exact Client.comes_rest nofun rfl
  | abort id =>
    refine Client.comes_rest nofun ?_
    show (w.client.abortJob id).session = _
    unfold Client.abortJob
    split
    · split <;> rfl
    · rfl
  | type console | wait millis => exact Client.comes_rest nofun rfl

/-- An event does to the session what it is about to do. -/
theorem comes_perform (w : World) (event : Event) :
    w.client.Comes (w.dealing event) (w.perform event).client := by
  cases room : w.hasRoom event with
  | true =>
    rw [perform_of_room room]
    exact comes_occur room
  | false =>
    rw [perform_of_no_room room]
    unfold dealing
    rw [room]
    exact Client.comes_rest nofun rfl

/-! ## The job that acts -/

theorem acting?_eq_some {job : Job} (h : w.acting? event = some job) :
    (∃ heeds, event = .turn job.id heeds) ∧ (job.id, job.activity) ∈ w.client.outline.jobs ∧
      w.client.isReady job = true ∧
      (job.isCancelled = true → job.activity.isCancellable = true) := by
  cases event with
  | turn id heeds =>
    obtain ⟨found, ready⟩ := Option.filter_eq_some_iff.mp h
    obtain ⟨live, rfl, may⟩ := Client.turning?_eq_some found
    exact ⟨⟨heeds, rfl⟩, live, ready, may⟩
  | _ => cases h

/-- A job's step is all that comes of its turn, if there is room. -/
theorem perform_of_acting {job : Job} (room : w.hasRoom event = true)
    (acts : w.acting? event = some job) :
    w.perform event = { w with client := w.client.step job } := by
  obtain ⟨⟨heeds, rfl⟩, -⟩ := acting?_eq_some acts
  rw [perform_of_room room, occur_of_acting, acts]

theorem dealing_of_acting {job : Job} (room : w.hasRoom event = true)
    (acts : w.acting? event = some job) : w.dealing event = w.client.dealing job := by
  obtain ⟨⟨heeds, rfl⟩, -⟩ := acting?_eq_some acts
  unfold dealing
  rw [if_pos room]
  dsimp only
  rw [acts]

/-- If no job goes on at a turn, nothing happens. -/
theorem perform_of_idle {id : JobId} {heeds : Bool} (idle : w.acting? (.turn id heeds) = none) :
    w.perform (.turn id heeds) = w := by
  have same : w.occur (.turn id heeds) = w := by rw [occur_of_acting, idle]
  unfold perform
  rw [same, ite_self]

/-- There is room for a step of a job that leaves no more calls than fit. -/
theorem hasRoom_of_deals {job : Job} (acts : w.acting? event = some job)
    (fits : ∀ t, w.client.session.Deals w.client.clock (w.client.dealing job) t →
      t.correlator.size ≤ mostCalls) : w.hasRoom event = true := by
  obtain ⟨⟨heeds, rfl⟩, -⟩ := acting?_eq_some acts
  refine decide_eq_true ?_
  rw [occur_of_acting, acts]
  show (w.client.step job).session.correlator.size ≤ mostCalls
  obtain ⟨t, deals, same | ⟨-, -, dropped⟩⟩ := Client.comes_step (c := w.client) job
  · rw [same]
    exact fits t deals
  · rw [dropped, Session.drop_eq]
    show t.correlator.drain.pending.length ≤ mostCalls
    rw [Correlator.pending_drain]
    exact Nat.zero_le _

/-- What deals with the connection alone always comes about. -/
theorem hasRoom_of_connection (room : w.client.session.correlator.size ≤ mostCalls) {job : Job}
    (acts : w.acting? event = some job)
    (own : (w.client.dealing job).isOfConnection = true) : w.hasRoom event = true := by
  refine hasRoom_of_deals acts fun t deals => ?_
  rw [(deals.sameCalls own).correlator]
  exact room

end World

end LspClient
