import LspClient.Proofs.Client.Deed

/-!
# Every event, in outline

`World.happens_perform` is the link between the program and its outline: whatever happens to
a world, its outline changes as `World.Happens` says. It is put together from one lemma for
each step function and each operation of a user.

For what has to do with the connection it does not matter who does what, and there
`World.follows_perform` is enough: the outline makes at most one shift, by a step of the
very job whose turn it is, and then only small changes.
-/

namespace LspClient

open Outline

namespace Client

variable {c : Client} {id : JobId} {a b : Activity} {j : JobId × Activity}
  {who? : Option JobId}

/-! ## What leaves no trace in the outline -/

@[simp] theorem outline_log (c : Client) (records : List LogRecord) :
    (c.log records).outline = c.outline := rfl

@[simp] theorem outline_modifyPeer (c : Client) (index : Nat) (change : Peer → Peer) :
    (c.modifyPeer index change).outline = c.outline := by
  unfold modifyPeer Loopback.modifyPeer outline
  simp only [List.length_modify]

@[simp] theorem outline_cancelJob (c : Client) (id : JobId) :
    (c.cancelJob id).outline = c.outline := by
  have same : (c.cancelJob id).jobs.map (fun j => (j.id, j.activity)) =
      c.jobs.map fun j => (j.id, j.activity) := by
    unfold cancelJob
    rw [List.map_map]
    refine List.map_congr_left fun j _ => ?_
    by_cases h : j.id = id ∧ j.activity.isCancellable <;> simp [h]
  unfold outline
  rw [same]
  rfl

@[simp] theorem outline_cancelJobs (c : Client) (ids : List JobId) :
    (c.cancelJobs ids).outline = c.outline := by
  unfold cancelJobs
  induction ids generalizing c with
  | nil => rfl
  | cons id rest ih => rw [List.foldl_cons, ih, outline_cancelJob]

@[simp] theorem outline_cancelReader (c : Client) : c.cancelReader.outline = c.outline := by
  unfold cancelReader
  split
  · exact outline_cancelJob ..
  · rfl

/-! ## What jobs do to the outline -/

@[simp] theorem outline_noteResult (c : Client) (id : JobId) (result : JobResult) :
    (c.noteResult id result).outline = c.outline.note id result := rfl

@[simp] theorem outline_spawn (c : Client) (a : Activity) :
    (c.spawn a).outline = c.outline.add a := by
  unfold spawn outline add
  simp only [List.map_append, List.map_cons, List.map_nil]

@[simp] theorem outline_become (c : Client) (id : JobId) (a : Activity) :
    (c.become id a).outline = c.outline.put id a := by
  unfold become outline put
  simp only [List.map_map]
  congr 1
  refine List.map_congr_left fun j _ => ?_
  by_cases h : j.id = id <;> simp [h]

@[simp] theorem outline_openGate (c : Client) : c.openGate.outline = c.outline.openGate := by
  obtain ⟨session, loopback, clock, isHeld, holder?, queue, jobs, nextJob, turns, console,
    report⟩ := c
  cases queue <;> rfl

/-- A session that nobody holds is dropped. -/
theorem deeds_reap (c : Client) : Deeds who? c.outline c.reap.outline := by
  unfold reap
  split
  · exact .refl
  · next free =>
    refine .single ?_
    show c.outline.Deed who? (c.cancelReader.outline.withSession c.session.drop)
    rw [outline_cancelReader]
    refine .drop fun kept => free ?_
    unfold holdsSession
    rw [Bool.or_eq_true, Bool.or_eq_true, List.any_eq_true]
    rcases kept with held | ⟨j, hj, holds⟩
    · exact .inr (.inl held)
    · obtain ⟨job, hjob, rfl⟩ := List.mem_map.mp hj
      exact .inr (.inr ⟨job, hjob, holds⟩)

theorem deeds_finish (c : Client) (id : JobId) :
    Deeds who? (c.outline.erase id) (c.finish id).outline := by
  have same : ({ c with jobs := c.jobs.filter (·.id != id) } : Client).outline =
      c.outline.erase id := by
    unfold outline erase
    simp only [List.filter_map]
    rfl
  rw [← same]
  exact deeds_reap _

theorem stirs_finish (c : Client) (id : JobId) :
    Stirs (c.outline.erase id) (c.finish id).outline :=
  Deeds.stirs (deeds_finish c id : Deeds none _ _)

/-- As long as the handle is there, the session stays. -/
theorem session_reap (c : Client) : c.reap.session = c.session ∨
    (c.isHeld = false ∧ c.reap.session = c.session.drop) := by
  unfold reap
  split
  · exact .inl rfl
  · next free =>
    refine .inr ⟨?_, rfl⟩
    by_contra held
    rw [Bool.not_eq_false] at held
    refine free ?_
    unfold holdsSession
    rw [held, Bool.true_or, Bool.or_true]

/-- A job on which no connection depends ends. -/
theorem deeds_leave (live : (id, a) ∈ c.outline.jobs) (aside : a.isAside = true) :
    Deeds (some id) c.outline (c.finish id).outline :=
  .head (.leave rfl live aside) (deeds_finish c id)

/-- It notes its result before. -/
theorem deeds_conclude (live : (id, a) ∈ c.outline.jobs) (aside : a.isAside = true)
    {result : JobResult} (other : ∀ outcome, result = .called outcome → ¬ IsAnswer outcome) :
    Deeds (some id) c.outline ((c.noteResult id result).finish id).outline :=
  .head (.note rfl other) (deeds_leave (c := c.noteResult id result) live aside)

/-- A job on which no connection depends goes on. -/
theorem deeds_become (live : (id, a) ∈ c.outline.jobs) (aside : a.isAside = true)
    (next : b.isAside = true) (kept : b.holdsSession = true → a.holdsSession = true)
    (known : ∀ ticket, b.ticket? = some ticket → c.outline.Holds ticket) :
    Deeds (some id) c.outline (c.become id b).outline := by
  rw [outline_become]
  exact .single (.move rfl live aside next kept known)

theorem deeds_session {s : Session} (quiets : c.session.Quiets s)
    (silently : c.session.Silently s) :
    Deeds who? c.outline ({ c with session := s } : Client).outline :=
  .single (.session quiets silently)

/-- A job on which no connection depends is started, and keeps no session. -/
theorem deeds_spawn (aside : a.isAside = true) (free : a.holdsSession = false)
    (known : ∀ ticket, a.ticket? = some ticket → c.outline.Holds ticket) :
    Deeds who? c.outline (c.spawn a).outline := by
  rw [outline_spawn]
  refine .single (.start aside (fun holds => ?_) known)
  rw [free] at holds
  cases holds

/-! ## Users -/

/-- A request either fails, without an answer of the server, or comes with a ticket that its
timer holds. -/
theorem request_cases (c : Client) (id? : Option RequestId) (method : String)
    (params : Option Json) (who? : Option JobId) :
    Deeds who? c.outline (c.request id? method params).1.outline ∧
      match (c.request id? method params).2 with
      | .error e => ¬ IsAnswer (.error e)
      | .ok request => (c.request id? method params).1.outline.Holds request.ticket := by
  have quiets := Session.quiets_request c.session id? method params c.clock
  have either := Session.logs_request c.session id? method params c.clock
  unfold request
  generalize c.session.request id? method params c.clock = pair at quiets either ⊢
  obtain ⟨session, result⟩ := pair
  rcases either with ⟨e, refused, other, silently⟩ | ⟨ticket, sent, free, serial, logs⟩
  · dsimp only at refused
    rw [refused]
    exact ⟨deeds_session quiets silently, other⟩
  · dsimp only at sent
    rw [sent]
    dsimp only
    rw [outline_spawn]
    exact ⟨.single (.issue quiets free serial logs), _, mem_add.mpr (.inr rfl), rfl⟩

theorem deeds_request (c : Client) (id? : Option RequestId) (method : String)
    (params : Option Json) : Deeds who? c.outline (c.request id? method params).1.outline :=
  (c.request_cases id? method params who?).1

theorem request_error {c' : Client} {id? : Option RequestId} {method : String}
    {params : Option Json} {e : CallError} (done : c.request id? method params = (c', .error e)) :
    ¬ IsAnswer (.error e) := by
  have other := (c.request_cases id? method params none).2
  rw [done] at other
  exact other

theorem holds_request {c' : Client} {id? : Option RequestId} {method : String}
    {params : Option Json} {request : PendingRequest}
    (done : c.request id? method params = (c', .ok request)) : c'.outline.Holds request.ticket := by
  have holds := (c.request_cases id? method params none).2
  rw [done] at holds
  exact holds

theorem deeds_dropRequest (c : Client) (request : PendingRequest) :
    Deeds who? c.outline (c.dropRequest request).outline := by
  have changes : c.session.Quiets ((c.session.abandon? request.ticket).getD c.session) ∧
      c.session.Silently ((c.session.abandon? request.ticket).getD c.session) := by
    cases abandoned : c.session.abandon? request.ticket with
    | none => exact ⟨.refl, Session.silently_same rfl⟩
    | some session =>
      exact ⟨Session.quiets_abandon? abandoned, Session.silently_abandon? abandoned⟩
  have same := outline_cancelJob c request.timer
  unfold dropRequest
  rw [← same]
  exact deeds_session (c := c.cancelJob request.timer) changes.1 changes.2

theorem deeds_notify (c : Client) (method : String) (params : Option Json) :
    Deeds who? c.outline (c.notify method params).1.outline := by
  unfold notify
  split
  · next session sent => exact deeds_session (Session.quiets_send sent) (Session.silently_send sent)
  · exact .refl

theorem deeds_cancel (c : Client) (id : RequestId) :
    Deeds who? c.outline (c.cancel id).1.outline := by
  unfold cancel
  split
  · next session done =>
    exact deeds_session (Session.quiets_cancel? done) (Session.silently_cancel? done)
  · exact .refl

theorem deeds_cancelRequest (c : Client) (id : RequestId) :
    Deeds who? c.outline (c.cancelRequest id).1.outline := by
  unfold cancelRequest
  split
  · next session done =>
    exact deeds_session (Session.quiets_cancelRequest? done) (Session.silently_cancelRequest? done)
  · exact .refl

theorem deeds_dropHandle (c : Client) : Deeds who? c.outline c.dropHandle.outline :=
  .head .letGo (deeds_reap { c with isHeld := false })

/-! ## Calls and replies -/

theorem deeds_stepReply {request : Request} {stage : ReplyStage}
    (live : (id, .reply request stage) ∈ c.outline.jobs) :
    Deeds (some id) c.outline (c.stepReply id request stage).outline := by
  unfold stepReply
  split
  · dsimp only
    split
    · exact deeds_become live rfl rfl (fun h => h) nofun
    · exact deeds_leave (c := c.noteInvocation _) live rfl
    · exact deeds_become live rfl rfl (fun h => h) nofun
  · exact deeds_become live rfl rfl (fun h => h) nofun
  · split
    · exact deeds_leave live rfl
    · split
      · next session sent =>
        have first : Deeds (some id) c.outline ({ c with session } : Client).outline :=
          deeds_session (Session.quiets_send sent) (Session.silently_send sent)
        exact first.trans (deeds_leave (c := { c with session }) live rfl)
      · exact deeds_leave live rfl

/-- Time that has run out is no answer. -/
theorem not_isAnswer_timeoutOf (c : Client) (ticket : Ticket) :
    ¬ IsAnswer (.error (c.timeoutOf ticket)) := not_isAnswer_error nofun

theorem deeds_stepExpire {ticket : Ticket} {deadline : Nat}
    (live : (id, .expire ticket deadline) ∈ c.outline.jobs) :
    Deeds (some id) c.outline (c.stepExpire id ticket).outline := by
  unfold stepExpire
  split
  · next session expired =>
    have first : Deeds (some id) c.outline ({ c with session } : Client).outline :=
      deeds_session (Session.quiets_expire? expired)
        (Session.silently_expire? (c.not_isAnswer_timeoutOf ticket) expired)
    exact first.trans (deeds_leave (c := { c with session }.log [timeoutRecord ticket]) live rfl)
  · exact deeds_leave live rfl

/-- Whoever has waited for a call ends, after a note of the outcome or without one. -/
theorem conclude_cases {request : PendingRequest} {receiver : Receiver} {stage : AwaitStage}
    (live : (id, .await request receiver stage) ∈ c.outline.jobs) (outcome : Outcome) :
    Deeds (some id) c.outline (c.conclude id request receiver outcome).outline ∨
      Deeds (some id) (c.outline.note id (.called outcome))
        (c.conclude id request receiver outcome).outline := by
  have same := outline_cancelJob c request.timer
  unfold conclude
  rw [← same] at live ⊢
  dsimp only
  split
  · exact .inl (deeds_leave (c := (c.cancelJob request.timer).print _) live rfl)
  · exact .inr (deeds_leave (c := (c.cancelJob request.timer).noteResult id _) live rfl)

theorem deeds_concludeCall {request : PendingRequest} {receiver : Receiver}
    {stage : AwaitStage} (live : (id, .await request receiver stage) ∈ c.outline.jobs)
    {outcome : Outcome}
    (other : ¬ IsAnswer outcome) :
    Deeds (some id) c.outline (c.conclude id request receiver outcome).outline := by
  rcases conclude_cases live outcome with deeds | deeds
  · exact deeds
  · refine .head (.note rfl fun result same => ?_) deeds
    cases same
    exact other

theorem does_stepAwait {request : PendingRequest} {receiver : Receiver} {stage : AwaitStage}
    (live : (id, .await request receiver stage) ∈ c.outline.jobs) :
    c.outline.Does id (.await request receiver stage) none
      (c.stepAwait id request receiver stage).outline := by
  unfold stepAwait
  cases stage with
  | looking =>
    dsimp only
    split
    · next outcome found =>
      rcases conclude_cases live outcome with deeds | deeds
      · exact .deeds deeds
      · exact .resolve found deeds
    · split
      · exact .deeds .refl
      · refine .deeds (deeds_become live rfl rfl (fun holds => ?_) fun ticket own => ?_)
        · rwa [Activity.holdsSession_await]
        · exact ⟨_, live, own⟩
  | late =>
    have other := c.not_isAnswer_timeoutOf request.ticket
    dsimp only
    split
    · next session abandoned =>
      have first : Deeds (some id) c.outline ({ c with session } : Client).outline :=
        deeds_session (Session.quiets_abandon? abandoned) (Session.silently_abandon? abandoned)
      have last : Deeds (some id) _ _ :=
        deeds_concludeCall (c := { c with session }.log [timeoutRecord request.ticket]) live other
      exact .deeds (first.trans last)
    · exact .deeds (deeds_concludeCall live other)

/-- Sending a request leaves the jobs as they are and may start a timer. -/
theorem mem_request (live : j ∈ c.outline.jobs) (id? : Option RequestId) (method : String)
    (params : Option Json) : j ∈ (c.request id? method params).1.outline.jobs := by
  unfold request
  split
  · exact live
  · rw [outline_spawn]
    exact mem_add.mpr (.inl live)

theorem deeds_stepCall {method : String} {params : Option Json}
    (live : (id, .call method params) ∈ c.outline.jobs) :
    Deeds (some id) c.outline (c.stepCall id method params).outline := by
  have first : Deeds (some id) _ _ := deeds_request c none method params
  have live' := mem_request live none method params
  unfold stepCall
  split
  · next c' request done =>
    rw [done] at first live'
    refine first.trans (deeds_become live' rfl rfl (fun _ => rfl) fun ticket own => ?_)
    cases own
    exact holds_request done
  · next c' e done =>
    rw [done] at first live'
    refine first.trans (deeds_conclude live' rfl fun outcome same => ?_)
    cases same
    exact request_error done

/-! ## The command line -/

theorem deeds_sendLine (c : Client) (outgoing : CommandLine.Outgoing) :
    Deeds who? c.outline (c.sendLine outgoing).1.outline := by
  unfold sendLine
  split
  · next method params =>
    have first : Deeds who? _ _ := deeds_notify c method params
    split
    · next done =>
      rw [done] at first
      exact first
    · next done =>
      rw [done] at first
      exact first
  · next echo method params =>
    have first : Deeds who? _ _ := deeds_request c none method params
    split
    · next done =>
      rw [done] at first
      exact first
    · next done =>
      rw [done] at first
      refine first.trans (deeds_spawn rfl rfl fun ticket own => ?_)
      cases own
      exact holds_request done

theorem mem_sendLine (live : j ∈ c.outline.jobs) (outgoing : CommandLine.Outgoing) :
    j ∈ (c.sendLine outgoing).1.outline.jobs := by
  unfold sendLine
  split
  · next method params =>
    have same : (c.notify method params).1.outline.jobs = c.outline.jobs := by
      unfold notify
      split <;> rfl
    rw [← same] at live
    split
    · next done =>
      rw [done] at live
      exact live
    · next done =>
      rw [done] at live
      exact live
  · next echo method params =>
    have live' := mem_request live none method params
    split
    · next done =>
      rw [done] at live'
      exact live'
    · next done =>
      rw [done] at live'
      rw [outline_spawn]
      exact mem_add.mpr (.inl live')

theorem deeds_takeLine (c : Client) (line : List Char) :
    Deeds who? c.outline (c.takeLine line).1.outline := by
  unfold takeLine
  split
  · exact .refl
  · exact deeds_sendLine ..
  · exact .refl

theorem mem_takeLine (live : j ∈ c.outline.jobs) (line : List Char) :
    j ∈ (c.takeLine line).1.outline.jobs := by
  unfold takeLine
  split
  · exact live
  · exact mem_sendLine live _
  · exact live

theorem deeds_endForward {stage : ForwardStage} {waiting : List JobId}
    (live : (id, .forward stage waiting) ∈ c.outline.jobs) (ended : List JobId)
    (result : Except ForwardError Unit) :
    Deeds (some id) c.outline (c.endForward id ended result).outline := by
  have same := outline_cancelJobs c ended
  unfold endForward
  rw [← same] at live ⊢
  exact deeds_conclude live rfl nofun

theorem deeds_stepForward {stage : ForwardStage} {waiting : List JobId}
    (live : (id, .forward stage waiting) ∈ c.outline.jobs) :
    Deeds (some id) c.outline (c.stepForward id waiting stage).outline := by
  -- at whatever point it goes on, it holds no request
  have goesOn {d : Client} {waiting waiting' : List JobId} {stage stage' : ForwardStage}
      (live : (id, .forward stage waiting) ∈ d.outline.jobs) :
      Deeds (some id) d.outline (d.become id (.forward stage' waiting')).outline :=
    deeds_become live rfl rfl (fun h => h) fun _ holds => by cases holds
  unfold stepForward
  split
  · split
    · unfold stepIdleForward
      split
      · exact deeds_endForward (c := c.log _) live _ _
      · split
        · exact deeds_endForward live _ _
        · exact .refl
    · exact goesOn live
    · next content rest _ =>
      let taken : Client := { c with console := { c.console with input := rest } }
      dsimp only
      split
      · exact deeds_endForward (c := taken) live _ _
      · next line _ =>
        have live' := mem_takeLine (c := taken) live line
        have first : Deeds (some id) _ _ := deeds_takeLine taken line
        exact first.trans (goesOn live')
  · exact deeds_endForward live _ _

/-! ## Losing, reading and writing -/

/-- The end of a reader or a writer, after its shift. -/
theorem deeds_endLoss (c : Client) (id : JobId) (outbox? : Option Nat) :
    Deeds who? ((c.outline.withSession (c.session.unman outbox?)).erase id)
      (c.endLoss id outbox?).outline :=
  deeds_finish ({ c with session := c.session.unman outbox? }) id

theorem stirs_endLoss (c : Client) (id : JobId) (outbox? : Option Nat) :
    Stirs ((c.outline.withSession (c.session.unman outbox?)).erase id)
      (c.endLoss id outbox?).outline :=
  Deeds.stirs (deeds_endLoss c id outbox? : Deeds none _ _)

theorem does_endLoss {outbox? : Option Nat} (deserts : c.outline.Deserts a outbox?) :
    c.outline.Does id a none (c.endLoss id outbox?).outline :=
  .shift (.desert deserts) (deeds_endLoss c id outbox?)

theorem does_become (step : c.outline.Move id a b) :
    c.outline.Does id a none (c.become id b).outline := by
  rw [outline_become]
  exact (Shift.move step).does

theorem outline_close? {closed : Client} {writer? : Option JobId}
    (h : c.close? = some (closed, writer?)) :
    ∃ s, c.session.close? = some s ∧ closed.outline = c.outline.withSession s := by
  unfold close? at h
  obtain ⟨s, hs, heq⟩ := Option.map_eq_some_iff.mp h
  cases heq
  exact ⟨s, hs, congrArg (·.withSession s) (outline_cancelReader c)⟩

theorem closed_of_close? (h : c.close? = none) : c.session.lifecycle = .closed := by
  unfold close? at h
  exact Session.close?_eq_none_iff.mp (Option.map_eq_none_iff.mp h)

theorem does_close {closed : Client} {writer? : Option JobId} (closes : Closes a b)
    (h : c.close? = some (closed, writer?)) :
    c.outline.Does id a none (closed.become id b).outline := by
  obtain ⟨s, hs, same⟩ := outline_close? h
  rw [outline_become, same]
  exact (Shift.close closes hs).does

theorem does_stepLoss {generation : Nat} {outbox? : Option Nat} {stage : LossStage} :
    c.outline.Does id (.lose generation outbox? stage) none
      (c.stepLoss id generation outbox? stage).outline := by
  unfold stepLoss
  split
  · split
    · next ignored => exact does_endLoss (.ignored ignored)
    · next session lost =>
      have same : ({ c.cancelReader with session } : Client).outline =
          c.outline.withSession session :=
        congrArg (·.withSession session) (outline_cancelReader c)
      rw [outline_become, same]
      exact (Shift.degrade lost).does
  · dsimp only
    split
    · next none => exact does_become (c := c.log _) (.disabled none)
    · next some =>
      refine .shift (.recover some) ?_
      have added := outline_spawn (c.log [.warning "Connection lost; reconnecting"
          [("endpoint", .string c.session.endpoint),
            ("pending", (Json.ofInt? c.session.correlator.size).getD .null)]])
        (.search .again .arriving)
      rw [outline_log] at added
      rw [← added]
      exact deeds_endLoss ..
  · split
    · next closed writer? done => exact does_close .loss done
    · next done => exact does_endLoss (.late (closed_of_close? done))
  · exact .shift .drainLoss (deeds_endLoss { c with session := c.session.drain } id outbox?)

theorem does_stepRead {peer generation : Nat} {isQueued : Bool}
    (live : (id, .read peer generation) ∈ c.outline.jobs) :
    c.outline.Does id (.read peer generation)
      (c.incoming? ⟨id, .read peer generation, false, isQueued⟩)
      (c.stepRead id peer generation).outline := by
  unfold stepRead incoming?
  dsimp only
  cases c.loopback.peer? peer with
  | none =>
    rw [ite_self]
    exact .deeds (deeds_leave live rfl)
  | some p =>
    -- the peer and the report change, and neither is in the outline
    have unchanged (d : Client) (h : d.outline = c.outline) :
        c.outline.Does id (.read peer generation) none (d.finish id).outline := by
      rw [← h] at live ⊢
      exact .deeds (deeds_leave live rfl)
    have lost (d : Client) (h : d.outline = c.outline) (alive : ¬ c.session.isDropped = true) :
        c.outline.Does id (.read peer generation) none
          (d.become id (.lose generation none .reporting)).outline := by
      rw [outline_become, h]
      exact (Shift.move (.unheard (Bool.eq_false_iff.mpr alive))).does
    have same (p : Peer) : (c.modifyPeer peer fun _ => p).outline = c.outline :=
      outline_modifyPeer ..
    have session (p : Peer) : (c.modifyPeer peer fun _ => p).session = c.session := rfl
    simp only [session, Bool.false_or]
    by_cases dropped : c.session.isDropped = true
    · rw [if_pos dropped, if_pos dropped]
      refine unchanged _ ?_
      rw [outline_modifyPeer, same]
    · rw [if_neg dropped, if_neg dropped]
      cases (p.read c.loopback.medium).2 with
      | nothing =>
        refine .deeds ?_
        rw [same]
      | message frame =>
        have taken {k : Outline} (h : k = c.outline.intake frame) :
            c.outline.Does id (.read peer generation) (some frame) k := by
          rw [h]
          exact .intake frame
        refine taken ?_
        have session : ({ c.modifyPeer peer fun _ => (p.read c.loopback.medium).1 with
            session := (c.session.receive frame).1 } : Client).outline =
              c.outline.withSession (c.session.receive frame).1 :=
          congrArg (·.withSession (c.session.receive frame).1) (same _)
        dsimp only
        cases asked : (c.session.receive frame).2.request? with
        | none =>
          rw [intake_of_none asked]
          exact session
        | some request =>
          rw [intake_of_request asked]
          dsimp only
          rw [outline_spawn]
          exact congrArg (·.add (.reply request .arriving)) session
      | ended =>
        refine lost _ ?_ dropped
        rw [outline_modifyPeer, same]
      | broken e =>
        refine lost _ ?_ dropped
        rw [outline_log, outline_modifyPeer, same]

theorem does_stepWrite {peer generation outbox : Nat} {stage : WriteStage} :
    c.outline.Does id (.write peer generation outbox stage) none
      (c.stepWrite id peer generation outbox stage).outline := by
  unfold stepWrite
  split
  · split
    · next absent => exact .shift (.desert (.unknown absent)) (deeds_finish c id)
    · next box found =>
      split
      · next frame rest head =>
        dsimp only
        rw [outline_become]
        refine Shift.does (.take found head ?_)
        nofun
      · next rest head =>
        dsimp only
        rw [outline_become]
        exact Shift.does (.take found head fun _ => rfl)
      · split
        · next done => exact does_become (.exhausted found done)
        · exact .deeds .refl
  · split
    · next absent =>
      exact does_endLoss (.unconnected (List.getElem?_eq_none_iff.mp absent))
    · split
      · next p left _ =>
        have same := outline_modifyPeer c peer fun _ => p
        rw [outline_become, same]
        refine (Shift.move (.written ?_)).does
        split <;> nofun
      · dsimp only
        split
        · next dropped => exact does_endLoss (c := c.log _) (.unneeded dropped)
        · next alive => exact does_become (c := c.log _) (.unsent (Bool.eq_false_iff.mpr alive))
  · have same := outline_modifyPeer c peer Peer.close
    rw [← same]
    exact does_endLoss .finished

/-! ## Looking for a connection -/

variable {why : Search}

theorem outline_toAttempt (c : Client) (id : JobId) (why : Search) (attempt : Nat) :
    ∃ stage, stage.IsBefore attempt ∧
      (c.toAttempt id why attempt).outline = c.outline.put id (.search why stage) := by
  unfold toAttempt
  split
  · exact ⟨.checking attempt, rfl, outline_become ..⟩
  · exact ⟨.backingOff attempt _, rfl, outline_become ..⟩

theorem outline_failSearch (c : Client) (id : JobId) (why : Search) (error : SessionError) :
    (c.failSearch id why error).outline =
      c.outline.put id (.search why (why.afterFailure error)) := by
  unfold failSearch
  cases why with
  | first => exact outline_become ..
  | again =>
    cases error with
    | invalidState state => exact outline_become ..
    | connectFailed attempts last =>
      dsimp only
      rw [outline_become]
      rfl

/-- After so many attempts the next one follows, or the search has failed. -/
theorem outline_nextAttempt (c : Client) (id : JobId) (why : Search) (made : Nat)
    (last : ConnectError) :
    (made < why.attempts c.session.settings ∧ ∃ stage, stage.IsBefore (made + 1) ∧
      (c.nextAttempt id why made last).outline = c.outline.put id (.search why stage)) ∨
    why.attempts c.session.settings ≤ made ∧ (c.nextAttempt id why made last).outline =
      c.outline.put id
        (.search why (.closing (.connectFailed (why.attempts c.session.settings) last))) := by
  unfold nextAttempt
  dsimp only
  split
  · next more => exact .inl ⟨more, outline_toAttempt c id why (made + 1)⟩
  · next enough =>
    refine .inr ⟨Nat.le_of_not_lt enough, ?_⟩
    rw [outline_failSearch]
    cases why <;> rfl

theorem does_failAttempt {attempt number deadline : Nat} {resume? : Option Nat}
    {error : ConnectError} :
    c.outline.Does id (.search why (.opening attempt number deadline resume?)) none
      (c.failAttempt id why attempt error).outline := by
  unfold failAttempt
  dsimp only
  rcases outline_nextAttempt (c.log _) id why attempt error with
    ⟨more, stage, before, same⟩ | ⟨enough, same⟩
  · rw [same]
    exact Shift.does (.move (.retried more before))
  · rw [same]
    exact Shift.does (.move (.failed _ enough))

/-- Whether an attempt fails is nothing to what is counted. -/
theorem takeFailure_same {l rest : Loopback} {fails : Bool}
    (h : l.takeFailure = (fails, rest)) : rest.attempts = l.attempts ∧ rest.peers = l.peers := by
  unfold Loopback.takeFailure at h
  split at h
  · cases h
    exact ⟨rfl, rfl⟩
  · split at h
    · cases h
      exact ⟨rfl, rfl⟩
    · cases h
      exact ⟨rfl, rfl⟩

theorem outline_of_accepted {loopback : Loopback} {number peer : Nat}
    (h : c.loopback.finishOpen number = (loopback, .ok peer)) :
    peer = c.outline.peers ∧ ({ c with loopback } : Client).outline =
      { c.outline with peers := c.outline.peers + 1 } := by
  unfold Loopback.finishOpen at h
  split at h
  · cases h
  · next rest taken =>
    obtain ⟨attempts, peers⟩ := takeFailure_same taken
    split at h
    · cases h
    · cases h
      refine ⟨congrArg List.length peers, ?_⟩
      unfold outline
      simp only [attempts, peers, List.length_append, List.length_singleton]

theorem outline_of_refused {loopback : Loopback} {number : Nat} {e : ConnectError}
    (h : c.loopback.finishOpen number = (loopback, .error e)) :
    ({ c with loopback } : Client).outline = c.outline := by
  have same : loopback.attempts = c.loopback.attempts ∧ loopback.peers = c.loopback.peers := by
    unfold Loopback.finishOpen at h
    split at h
    · next rest taken =>
      cases h
      exact takeFailure_same taken
    · next rest taken =>
      split at h
      · cases h
        exact takeFailure_same taken
      · cases h
  unfold outline
  simp only [same.1, same.2]

theorem does_install {attempt peer : Nat} :
    c.outline.Does id (.search why (.installing attempt peer)) none
      (c.stepSearch id why (.installing attempt peer)).outline := by
  unfold stepSearch
  dsimp only
  split
  · next session done =>
    unfold leaveSearch
    rw [outline_become, outline_spawn, outline_spawn]
    exact Shift.does (.install done)
  · next e refused =>
    obtain ⟨other, rfl⟩ := Session.install_eq_error refused
    rw [outline_failSearch, outline_modifyPeer]
    exact Shift.does (.move (.declined other))

theorem does_endSearch {error? : Option SessionError} :
    c.outline.Does id (.search why (.leaving error?)) none (c.endSearch id why error?).outline := by
  unfold endSearch
  cases why with
  | first =>
    dsimp only
    refine .shift .report ?_
    rw [← outline_openGate, ← outline_noteResult]
    exact deeds_finish ..
  | again =>
    refine .shift .leave ?_
    rw [← outline_openGate]
    exact deeds_finish ..

/-- A search takes its steps; at the gate it has to hold it. -/
theorem does_stepSearch {stage : SearchStage}
    (ready : stage = .atGate → c.gateHolder? = some id) :
    c.outline.Does id (.search why stage) none (c.stepSearch id why stage).outline := by
  cases stage with
  | arriving =>
    unfold stepSearch
    dsimp only
    split
    · next free =>
      rw [outline_become]
      exact Shift.does (.enter free)
    · next holder taken =>
      rw [outline_become]
      exact Shift.does (.queue taken)
  | atGate =>
    unfold stepSearch
    dsimp only
    split
    · next expected =>
      rcases outline_nextAttempt c id why 0 noAttempt with ⟨-, stage, before, same⟩ | ⟨none, same⟩
      · rw [same]
        exact Shift.does (.move (.passed (ready rfl) expected before))
      · rw [same]
        exact Shift.does (.move (.untried (ready rfl) expected _ (Nat.le_zero.mp none)))
    · next other => exact does_become (.refused (ready rfl) other)
  | backingOff attempt until_ => exact does_become .woken
  | checking attempt =>
    unfold stepSearch
    dsimp only
    split
    · next expected => exact does_become (.checked expected)
    · next other =>
      rw [outline_failSearch]
      exact Shift.does (.move (.outdated other))
  | starting attempt =>
    unfold stepSearch Loopback.beginOpen
    dsimp only
    rw [outline_become]
    exact Shift.does .open
  | opening attempt number deadline resume? =>
    unfold stepSearch
    dsimp only
    split
    · split
      · next loopback peer opened =>
        obtain ⟨rfl, accepted⟩ := outline_of_accepted opened
        rw [outline_become, accepted]
        exact Shift.does .accept
      · next loopback e failed =>
        rw [← outline_of_refused failed]
        exact does_failAttempt
    · exact does_failAttempt
  | installing attempt peer => exact does_install
  | closing error =>
    unfold stepSearch
    dsimp only
    split
    · next closed writer? done => exact does_close .search done
    · next done => exact does_become (.late (closed_of_close? done))
  | draining error =>
    unfold stepSearch leaveSearch
    dsimp only
    rw [outline_become]
    exact Shift.does (.drain .search)
  | leaving error? => exact does_endSearch

/-- A search that waits can be given up. -/
theorem does_giveUpSearch {stage : SearchStage} (waits : stage.isWaiting = true) :
    c.outline.Does id (.search .first stage) none (c.giveUpSearch id).outline := by
  unfold giveUpSearch
  split
  · next holder =>
    refine .shift (.giveUpGate waits holder) ?_
    rw [← outline_openGate]
    exact deeds_finish ..
  · next other =>
    exact .shift (.giveUpPlace waits other)
      (deeds_finish { c with gateQueue := c.gateQueue.filter (· != id) } id)

/-! ## Shutting down -/

theorem does_stepShutdown {stage : ShutdownStage}
    (live : (id, .shutDown stage) ∈ c.outline.jobs) :
    c.outline.Does id (.shutDown stage) none (c.stepShutdown id stage).outline := by
  unfold stepShutdown
  split
  · split
    · next closed writer? done => exact does_close .shutdown done
    · exact .deeds (deeds_conclude live rfl nofun)
  · rw [outline_become]
    exact Shift.does (.drain .shutdown)
  · exact .deeds (deeds_conclude live rfl nofun)

/-! ## Any job and any event -/

theorem mem_outline {job : Job} (h : job ∈ c.jobs) : (job.id, job.activity) ∈ c.outline.jobs :=
  List.mem_map.mpr ⟨job, h, rfl⟩

theorem exists_job (live : (id, a) ∈ c.outline.jobs) :
    ∃ job ∈ c.jobs, job.id = id ∧ job.activity = a := by
  obtain ⟨job, hjob, heq⟩ := List.mem_map.mp live
  exact ⟨job, hjob, congrArg Prod.fst heq, congrArg Prod.snd heq⟩

theorem does_stepCancelled {job : Job} (live : (job.id, job.activity) ∈ c.outline.jobs)
    (may : job.activity.isCancellable = true) :
    c.outline.Does job.id job.activity none (c.stepCancelled job).outline := by
  obtain ⟨id, activity, isCancelled, isQueued⟩ := job
  unfold stepCancelled
  dsimp only at live may ⊢
  cases activity with
  | read peer generation =>
    have same := outline_modifyPeer c peer Peer.unhear
    rw [← same] at live ⊢
    exact .deeds (deeds_leave live rfl)
  | await request receiver stage =>
    have live' : (id, .await request receiver stage) ∈ (c.dropRequest request).outline.jobs := by
      unfold dropRequest
      rw [← outline_cancelJob c request.timer] at live
      exact live
    exact .deeds ((deeds_dropRequest c request).trans (deeds_leave live' rfl))
  | search why stage =>
    cases why with
    | first => exact does_giveUpSearch may
    | again => cases may
  | write | lose | reply => cases may
  | expire | call => exact .deeds (deeds_leave live rfl)
  | shutDown stage =>
    cases stage with
    | closing | flushing => exact .deeds (deeds_leave live rfl)
    | draining => cases may
  | forward => cases may

/-- A job that is cancelled takes nothing in. -/
theorem incoming?_of_cancelled {job : Job} (cancelled : job.isCancelled = true) :
    c.incoming? job = none := by
  unfold incoming?
  rw [cancelled]
  split <;> rfl

theorem does_step {job : Job} (live : (job.id, job.activity) ∈ c.outline.jobs)
    (ready : c.isReady job = true)
    (may : job.isCancelled = true → job.activity.isCancellable = true) :
    c.outline.Does job.id job.activity (c.incoming? job) (c.step job).outline := by
  unfold step
  split
  · next cancelled =>
    rw [incoming?_of_cancelled cancelled]
    exact does_stepCancelled live (may cancelled)
  · next goesOn =>
    obtain ⟨id, activity, isCancelled, isQueued⟩ := job
    dsimp only at live goesOn ⊢
    cases activity with
    | read peer generation =>
      rw [Bool.eq_false_iff.mpr goesOn]
      exact does_stepRead live
    | write peer generation outbox stage => exact does_stepWrite
    | lose generation outbox? stage => exact does_stepLoss
    | reply request stage => exact .deeds (deeds_stepReply live)
    | expire ticket deadline => exact .deeds (deeds_stepExpire live)
    | call method params => exact .deeds (deeds_stepCall live)
    | await request receiver stage => exact does_stepAwait live
    | search why stage =>
      refine does_stepSearch fun atGate => ?_
      subst atGate
      have ready' : (isCancelled || decide (c.gateHolder? = some id)) = true := ready
      rw [Bool.eq_false_iff.mpr goesOn, Bool.false_or] at ready'
      exact of_decide_eq_true ready'
    | shutDown stage => exact does_stepShutdown live
    | forward stage waiting => exact .deeds (deeds_stepForward live)

theorem turning?_eq_some {heeds : Bool} {job : Job} (h : c.turning? id heeds = some job) :
    (job.id, job.activity) ∈ c.outline.jobs ∧ job.id = id ∧
      (job.isCancelled = true → job.activity.isCancellable = true) := by
  unfold turning? at h
  obtain ⟨given, found, rfl⟩ := Option.map_eq_some_iff.mp h
  have live := mem_outline (List.mem_of_find?_eq_some found)
  refine ⟨live, ?_, ?_⟩
  · show given.id = id
    simpa using List.find?_some found
  · intro heeded
    exact (Bool.and_eq_true_iff.mp heeded).2

end Client

namespace World

/-- A job takes its turn. -/
theorem happens_takeTurn (w : World) (id : JobId) (heeds : Bool) :
    w.Happens (.turn id heeds) (w.client.takeTurn id heeds).outline := by
  -- the frame that the step takes in is the one of the event
  have frame : w.incoming? (.turn id heeds) = (w.client.turning? id heeds).bind fun job =>
      if w.client.isReady job then w.client.incoming? job else none := by
    unfold incoming?
    dsimp only
    cases w.client.turning? id heeds <;> rfl
  unfold Client.takeTurn
  cases found : w.client.turning? id heeds with
  | none =>
    rw [found] at frame
    exact .other frame .refl
  | some job =>
    rw [found, Option.bind_some] at frame
    dsimp only
    by_cases ready : w.client.isReady job = true
    · obtain ⟨live, own, may⟩ := Client.turning?_eq_some found
      have does := Client.does_step live ready may
      rw [if_pos ready] at frame ⊢
      rw [← frame, own] at does
      rw [own] at live
      exact .turn live does
    · rw [if_neg ready] at frame ⊢
      exact .other frame .refl

theorem happens_occur (w : World) (event : Event) :
    w.Happens event (w.occur event).client.outline := by
  -- what takes a handle does nothing if nobody has one
  have guarded {event : Event} {w' : World} (nothing : w.incoming? event = none)
      (h : w.client.isHeld = true → Deeds none w.client.outline w'.client.outline) :
      w.Happens event (if w.client.isHeld then w' else w).client.outline := by
    split
    · next held => exact .other nothing (h held)
    · exact .other nothing .refl
  have started {a : Activity} (aside : a.isAside = true) (free : a.ticket? = none)
      (held : w.client.isHeld = true) : Deeds none w.client.outline (w.client.spawn a).outline := by
    rw [Client.outline_spawn]
    refine .single (.start aside (fun _ => held) fun ticket own => ?_)
    rw [free] at own
    cases own
  unfold occur
  cases event with
  | turn id heeds => exact happens_takeTurn w id heeds
  | request id? method params =>
    refine guarded rfl fun _ => ?_
    have deeds : Deeds none _ _ := Client.deeds_request w.client id? method params
    split
    · next done =>
      rw [done] at deeds
      exact deeds
    · next done =>
      rw [done] at deeds
      exact deeds
  | notify method params => exact guarded rfl fun _ => Client.deeds_notify ..
  | cancel id => exact guarded rfl fun _ => Client.deeds_cancel ..
  | cancelRequest id => exact guarded rfl fun _ => Client.deeds_cancelRequest ..
  | connect =>
    refine guarded rfl fun held => ?_
    rw [Client.outline_spawn]
    exact .single (.connect held)
  | call method params => exact guarded rfl fun held => started rfl rfl held
  | shutDown => exact guarded rfl fun held => started rfl rfl held
  | forward => exact guarded rfl fun held => started rfl rfl held
  | route dispatcher =>
    exact guarded rfl fun _ =>
      Client.deeds_session (.single (.routed dispatcher)) (Session.silently_same rfl)
  | dropHandle => exact .other rfl (Client.deeds_dropHandle _)
  | await request =>
    dsimp only
    split
    · next held =>
      rw [Client.outline_spawn]
      exact .await held
    · exact .other rfl .refl
  | dropRequest request =>
    dsimp only
    split
    · exact .other rfl (Client.deeds_dropRequest ..)
    · exact .other rfl .refl
  | abort id =>
    dsimp only
    unfold Client.abortJob
    split
    · split
      · rw [Client.outline_cancelJob]
        exact .other rfl .refl
      · exact .other rfl .refl
    · exact .other rfl .refl
  | serve loopback =>
    dsimp only
    split
    · next may =>
      have same : ({ w.client with loopback } : Client).outline =
          { w.client.outline with peers := loopback.peers.length } := by
        unfold Client.outline
        rw [may.2]
      rw [same]
      exact .other rfl (.single (.serve may.1))
    · exact .other rfl .refl
  | type console => exact .other rfl .refl
  | wait millis => exact .other rfl .refl

theorem follows_occur (w : World) (event : Event) :
    w.client.outline.Follows event (w.occur event).client.outline :=
  (happens_occur w event).follows

/-- A frame that is taken in leaves no more calls outstanding. -/
theorem size_occur_le {w : World} {event : Event} {frame : Bytes}
    (h : w.incoming? event = some frame) :
    (w.occur event).client.session.correlator.size ≤ w.client.session.correlator.size := by
  show (w.occur event).client.outline.session.correlator.size ≤ _
  rw [((happens_occur w event).of_incoming h).1, session_intake]
  exact Session.size_receive_le ..

theorem happens_perform {w : World} (room : w.client.session.correlator.size ≤ mostCalls)
    (event : Event) : w.Happens event (w.perform event).client.outline := by
  unfold perform
  dsimp only
  split
  · exact happens_occur w event
  · next full =>
    refine .other ?_ .refl
    cases found : w.incoming? event with
    | none => rfl
    | some frame => exact absurd (Nat.le_trans (size_occur_le found) room) full

/-- Whatever happens, the outline makes at most one shift, by the job whose turn it is, and
then only small changes. -/
theorem follows_perform (w : World) (event : Event) :
    w.client.outline.Follows event (w.perform event).client.outline := by
  unfold perform
  dsimp only
  split
  · exact follows_occur w event
  · exact .inl .refl

end World

end LspClient
