import LspClient.Proofs.Client.Issued
import LspClient.Proofs.Client.Teardown

/-!
# What takes a call out of the table

The deadline of a request is kept twice: its timer takes the call out of the table and fails it,
and whoever waits for the request, if he sees nothing at the deadline, goes on to take the call
out and makes up the error. `World.Removes` says what takes a call out of the table and which
outcome that means for the request; both ways mean the same one, and no event means two
(`World.Removes.eq_verdict`). An event settles each call that waits (`World.settles_perform`): it
leaves the call alone, or it removes it in one of these ways, and the outcome is there from then
on or is taken at once.
-/

namespace LspClient

open Client Correlator

/-- A session that is not dropped as a job ends is as it was. -/
theorem Client.session_finish_of_kept {c : Client} {id : JobId}
    (kept : (c.finish id).session.isDropped = false) : (c.finish id).session = c.session := by
  rcases session_finish c id with same | dropped
  · exact same
  · rw [dropped, Session.drop_eq] at kept
    cases kept

namespace World

variable {w : World} {event : Event} {request : PendingRequest} {job : Job} {call : PendingCall}
  {settings : Settings} {medium : Medium} {events : List Event} {outcome : Outcome}
  {issued past : List PendingRequest} {l : Ledger}

/-! ## Removals -/

/-- Whether the call of a request is outstanding. -/
def Waits (w : World) (request : PendingRequest) : Prop :=
  ∃ call ∈ w.client.session.correlator.pending,
    call.id = request.ticket.id ∧ call.serial = request.ticket.serial

instance (w : World) (request : PendingRequest) : Decidable (w.Waits request) :=
  inferInstanceAs (Decidable (∃ call ∈ w.client.session.correlator.pending, _))

/-- The registration of a call that waits has come to nothing yet. -/
theorem outcome?_of_waits (wf : w.client.session.correlator.WellFormed)
    (waits : w.Waits request) : w.client.session.outcome? request.ticket = none := by
  obtain ⟨call, member, -, serial⟩ := waits
  have waiting := wf.waiting call member
  rw [serial] at waiting
  exact congrArg Delivery.outcome? waiting

/-- The error of a request whose time has run out. -/
def timeout (w : World) (request : PendingRequest) : Outcome :=
  .error (.timeout request.ticket.method w.client.session.settings.requestTimeout.toNat)

/-- What takes the call of a request out of the table, and the outcome that this means. -/
inductive Removes (w : World) (event : Event) (request : PendingRequest) : Outcome → Prop
  /-- A response comes in under its id. -/
  | answered {frame : Bytes} {rpc : RpcOutcome} (taken : w.incoming? event = some frame)
      (decoded : Envelope.decode frame = .ok (.response ⟨some request.ticket.id, rpc⟩)) :
      Removes w event request (rpc.mapError .rpc)
  /-- The user cancels its id. -/
  | cancelled (held : w.client.isHeld = true)
      (asks : event = .cancel request.ticket.id ∨ event = .cancelRequest request.ticket.id) :
      Removes w event request (.error .cancelled)
  /-- The session was closed, and all calls fail. -/
  | drained (drains : w.dealing event = .drain) : Removes w event request (.error .connectionClosed)
  /-- The last one who held the session has let go of it, and that is not who waits. -/
  | letGo (held : w.client.session.isDropped = false)
      (drops : (w.perform event).client.session.isDropped = true)
      (other : ∀ job, w.acting? event = some job →
        ∀ receiver stage, job.activity ≠ .await request receiver stage) :
      Removes w event request (.error .connectionClosed)
  /-- Its timer has run out. -/
  | expired {job : Job} (acts : w.acting? event = some job) (goesOn : job.isCancelled = false)
      (activity : job.activity = .expire request.ticket request.deadline)
      (due : request.deadline ≤ w.client.clock) : Removes w event request (w.timeout request)
  /-- Whoever waits for it has seen nothing at the deadline, and now gives it up. -/
  | gaveUp {job : Job} {receiver : Receiver} (acts : w.acting? event = some job)
      (goesOn : job.isCancelled = false) (activity : job.activity = .await request receiver .late)
      (due : request.deadline ≤ w.client.clock) : Removes w event request (w.timeout request)

/-- What becomes of a call that waits: it still waits after the event, its request is dropped,
or the event removes it, and the outcome is seen from then on or taken at once. -/
def SettlesCall (w : World) (event : Event) (request : PendingRequest) : Prop :=
  (w.perform event).Waits request ∨ w.dropped? event = some request ∨
    ∃ outcome, w.Removes event request outcome ∧
      ((w.perform event).client.session.outcome? request.ticket = some outcome ∨
        w.resolution? event = some (request, outcome))

/-- A call that is taken out is another one, or it comes to what the removal means. -/
theorem settles_of_removed (wf : w.client.session.correlator.WellFormed)
    (waits : w.Waits request) {taken : PendingCall} {delivery : Delivery}
    (waited : taken ∈ w.client.session.correlator.pending)
    (into : (w.perform event).client.session.correlator =
      (w.client.session.correlator.erase taken.id).deliver taken delivery)
    (own : taken.id = request.ticket.id → taken.serial = request.ticket.serial →
      w.dropped? event = some request ∨ ∃ outcome, w.Removes event request outcome ∧
        (delivery = .fulfilled outcome ∨ w.resolution? event = some (request, outcome))) :
    w.SettlesCall event request := by
  obtain ⟨call, member, id, serial⟩ := waits
  by_cases same : taken.id = call.id
  · obtain rfl := wf.eq_of_id waited member same
    rcases own id serial with drops | ⟨outcome, removes, fulfilled | resolved⟩
    · exact .inr (.inl drops)
    · refine .inr (.inr ⟨outcome, removes, .inl ?_⟩)
      show ((w.perform event).client.session.correlator.delivery _).outcome? = _
      rw [into, ← serial, fulfilled]
      exact congrArg Delivery.outcome? (delivery_deliver_self (wf.given taken member) _)
    · exact .inr (.inr ⟨outcome, removes, .inr resolved⟩)
  · refine .inl ⟨call, ?_, id, serial⟩
    rw [into]
    exact mem_pending_erase.mpr ⟨member, Ne.symm same⟩

theorem settles_of_same (waits : w.Waits request)
    (same : (w.perform event).client.session.correlator = w.client.session.correlator) :
    w.SettlesCall event request := by
  refine .inl ?_
  unfold Waits
  rw [same]
  exact waits

/-- A timer that has run out takes its own call out. -/
theorem settles_of_expire (reached : Outline.Reachable settings medium w.client.outline)
    (room : w.hasRoom event = true) (accounts : w.Accounts issued past)
    (sent : request ∈ issued) (waits : w.Waits request)
    (kept : (w.perform event).client.session.isDropped = false)
    (acts : w.acting? event = some job) (goesOn : job.isCancelled = false) {ticket : Ticket}
    {deadline : Nat} (activity : job.activity = .expire ticket deadline) :
    w.SettlesCall event request := by
  have wf : w.client.session.correlator.WellFormed := reached.wellFormed
  obtain ⟨-, live, ready, -⟩ := acting?_eq_some acts
  have due : deadline ≤ w.client.clock := by
    unfold isReady at ready
    rw [goesOn, activity] at ready
    exact of_decide_eq_true ready
  have after : (w.perform event).client = w.client.stepExpire job.id ticket := by
    rw [perform_of_acting room acts]
    dsimp only
    unfold step
    rw [goesOn, activity]
    rfl
  have into (d : Client) (done : w.client.stepExpire job.id ticket = d.finish job.id) :
      (w.perform event).client.session = d.session := by
    rw [after, done] at kept ⊢
    exact session_finish_of_kept kept
  unfold stepExpire at into
  cases expires : w.client.session.expire? ticket (w.client.timeoutOf ticket) with
  | none =>
    rw [expires] at into
    exact settles_of_same waits (congrArg _ (into _ rfl))
  | some session =>
    rw [expires] at into
    have same := into _ rfl
    obtain ⟨correlator, expired, rfl⟩ := Option.map_eq_some_iff.mp expires
    obtain ⟨taken, waited, -, number, rfl⟩ := Correlator.expire?_eq_some expired
    refine settles_of_removed wf waits waited (congrArg _ same) fun _ serial => ?_
    -- the timer of the call's number is the timer of the request
    rw [activity] at live
    obtain ⟨other, among, timer⟩ := accounts.timers (ticket, deadline) (mem_carried live rfl)
    cases timer
    obtain rfl := accounts.eq_of_serial among sent (number.symm.trans serial)
    exact .inr ⟨_, .expired acts goesOn activity due, .inl rfl⟩

/-- Whoever gives up a request takes its own call out. -/
theorem settles_of_abandon {ticket : Ticket} (wf : w.client.session.correlator.WellFormed)
    (waits : w.Waits request)
    (after : (w.perform event).client.session =
      (w.client.session.abandon? ticket).getD w.client.session)
    (own : ticket.serial = request.ticket.serial →
      w.dropped? event = some request ∨ ∃ outcome, w.Removes event request outcome ∧
        w.resolution? event = some (request, outcome)) : w.SettlesCall event request := by
  cases abandons : w.client.session.abandon? ticket with
  | none =>
    rw [abandons] at after
    exact settles_of_same waits (congrArg _ after)
  | some session =>
    rw [abandons] at after
    obtain ⟨⟨taken, rest⟩, abandoned, rfl⟩ := Option.map_eq_some_iff.mp abandons
    obtain ⟨waited, -, number, rfl⟩ := Correlator.abandon?_eq_some abandoned
    refine settles_of_removed wf waits waited (congrArg _ after) fun _ serial => ?_
    rcases own (number.symm.trans serial) with drops | ⟨outcome, removes, resolved⟩
    · exact .inl drops
    · exact .inr ⟨outcome, removes, .inr resolved⟩

/-- Who looks for an outcome leaves the session as it is; who gives up abandons the call. -/
theorem session_stepAwait {c : Client} {id : JobId} {receiver : Receiver} {stage : AwaitStage}
    (kept : (c.stepAwait id request receiver stage).session.isDropped = false) :
    (c.stepAwait id request receiver stage).session =
      match stage with
      | .looking => c.session
      | .late => (c.session.abandon? request.ticket).getD c.session := by
  have concludes {d : Client} {outcome : Outcome}
      (kept : (d.conclude id request receiver outcome).session.isDropped = false) :
      (d.conclude id request receiver outcome).session = d.session := by
    unfold conclude at kept ⊢
    dsimp only at kept ⊢
    split at kept
    · exact session_finish_of_kept kept
    · exact session_finish_of_kept kept
  unfold stepAwait at kept ⊢
  cases stage with
  | looking =>
    dsimp only at kept ⊢
    split
    · next seen =>
      rw [seen] at kept
      exact concludes kept
    · split <;> rfl
  | late =>
    dsimp only at kept ⊢
    cases abandons : c.session.abandon? request.ticket with
    | none =>
      rw [abandons] at kept
      exact concludes kept
    | some session =>
      rw [abandons] at kept
      exact concludes kept

theorem mem_issued_of_job (accounts : w.Accounts issued past) {receiver : Receiver}
    {stage : AwaitStage} (acts : w.acting? event = some job)
    (activity : job.activity = .await request receiver stage) : request ∈ issued :=
  accounts.mem_issued (List.mem_append_right _ (mem_requests_of_job acts activity))

theorem client_perform_of_await (room : w.hasRoom event = true)
    (acts : w.acting? event = some job) (goesOn : job.isCancelled = false) {receiver : Receiver}
    {stage : AwaitStage} (activity : job.activity = .await request receiver stage) :
    (w.perform event).client = w.client.stepAwait job.id request receiver stage := by
  rw [perform_of_acting room acts]
  dsimp only
  unfold step
  rw [goesOn, activity]
  rfl

theorem resolution?_of_await (acts : w.acting? event = some job)
    (goesOn : job.isCancelled = false) {receiver : Receiver} {stage : AwaitStage}
    (activity : job.activity = .await request receiver stage) :
    w.resolution? event =
      (w.client.found? request stage).map fun outcome => (request, outcome) := by
  unfold resolution?
  rw [acts]
  dsimp only
  rw [goesOn, activity]
  rfl

theorem settles_of_await (reached : Outline.Reachable settings medium w.client.outline)
    (patient : w.client.IsPatient) (room : w.hasRoom event = true)
    (accounts : w.Accounts issued past) (sent : request ∈ issued) (waits : w.Waits request)
    (kept : (w.perform event).client.session.isDropped = false)
    (acts : w.acting? event = some job) (goesOn : job.isCancelled = false)
    {other : PendingRequest} {receiver : Receiver} {stage : AwaitStage}
    (activity : job.activity = .await other receiver stage) : w.SettlesCall event request := by
  have after := client_perform_of_await room acts goesOn activity
  rw [after] at kept
  have session := session_stepAwait kept
  rw [← after] at session
  cases stage with
  | looking => exact settles_of_same waits (congrArg _ session)
  | late =>
    refine settles_of_abandon reached.wellFormed waits session fun serial => .inr ?_
    obtain rfl := accounts.eq_of_serial (mem_issued_of_job accounts acts activity) sent serial
    exact ⟨_, .gaveUp acts goesOn activity (deadline_of_late patient acts activity),
      resolution?_of_await acts goesOn activity⟩

theorem dropped?_of_cancelled {receiver : Receiver} {stage : AwaitStage}
    (acts : w.acting? event = some job) (cancelled : job.isCancelled = true)
    (activity : job.activity = .await request receiver stage) :
    w.dropped? event = some request := by
  obtain ⟨⟨heeds, rfl⟩, -⟩ := acting?_eq_some acts
  unfold dropped?
  dsimp only
  rw [acts]
  dsimp only
  rw [cancelled, activity]
  rfl

theorem settles_of_cancelled (reached : Outline.Reachable settings medium w.client.outline)
    (room : w.hasRoom event = true) (accounts : w.Accounts issued past)
    (sent : request ∈ issued) (waits : w.Waits request)
    (kept : (w.perform event).client.session.isDropped = false)
    (acts : w.acting? event = some job) (cancelled : job.isCancelled = true)
    {other : PendingRequest} {receiver : Receiver} {stage : AwaitStage}
    (activity : job.activity = .await other receiver stage) : w.SettlesCall event request := by
  have after : (w.perform event).client = (w.client.dropRequest other).finish job.id := by
    rw [perform_of_acting room acts]
    dsimp only
    unfold step stepCancelled
    rw [cancelled, activity]
    rfl
  rw [after] at kept
  have abandons := session_finish_of_kept kept
  rw [← after] at abandons
  refine settles_of_abandon reached.wellFormed waits abandons fun serial => .inl ?_
  obtain rfl := accounts.eq_of_serial (mem_issued_of_job accounts acts activity) sent serial
  exact dropped?_of_cancelled acts cancelled activity

/-- A frame takes a call out only if it is a response under the id of the call. -/
theorem settles_of_frame (reached : Outline.Reachable settings medium w.client.outline)
    (room : w.client.session.correlator.size ≤ mostCalls) (waits : w.Waits request)
    {frame : Bytes} (taken : w.incoming? event = some frame) : w.SettlesCall event request := by
  have into : (w.perform event).client.session = (w.client.session.receive frame).1 := by
    have same := congrArg Outline.session ((happens_perform room event).of_incoming taken).1
    rwa [Outline.session_intake] at same
  unfold Session.receive at into
  split at into
  · exact settles_of_same waits (congrArg _ into)
  · next id rpc decoded =>
    split at into
    · next correlator answered =>
      obtain ⟨call, waited, own, rfl⟩ := answer_eq_ok answered
      refine settles_of_removed reached.wellFormed waits waited (congrArg _ into) fun named _ => ?_
      rw [← own, named] at decoded
      exact .inr ⟨_, .answered taken decoded, .inl rfl⟩
    · exact settles_of_same waits (congrArg _ into)
  all_goals exact settles_of_same waits (congrArg _ into)

/-- Cancelling an id takes out the call that waits under it. -/
theorem settles_of_cancel (reached : Outline.Reachable settings medium w.client.outline)
    (waits : w.Waits request) (held : w.client.isHeld = true) {id : RequestId}
    (asks : event = .cancel id ∨ event = .cancelRequest id)
    (into : (w.perform event).client.session.correlator =
      (w.client.session.correlator.cancel? id).getD w.client.session.correlator) :
    w.SettlesCall event request := by
  cases cancels : w.client.session.correlator.cancel? id with
  | none =>
    rw [cancels] at into
    exact settles_of_same waits into
  | some next =>
    rw [cancels] at into
    obtain ⟨taken, waited, rfl, rfl⟩ := Correlator.settle?_eq_some cancels
    refine settles_of_removed reached.wellFormed waits waited into fun named _ => ?_
    rw [named] at asks
    exact .inr ⟨_, .cancelled held asks, .inl rfl⟩

/-- To tell the server that a call was cancelled is nothing to the calls. -/
theorem correlator_tellCancelled (s : Session) (id : RequestId) :
    (s.tellCancelled id).correlator = s.correlator := by
  unfold Session.tellCancelled Session.notify
  rcases s.send_cases (.notification ⟨cancelMethod, some (cancelParams id)⟩) with
    ⟨e, refused⟩ | ⟨index, -, sent⟩
  · rw [refused]
  · rw [sent]
    rfl

/-- What the user does takes out the call that he cancels, or that of the request he drops. -/
theorem settles_of_user (reached : Outline.Reachable settings medium w.client.outline)
    (room : w.hasRoom event = true) (accounts : w.Accounts issued past)
    (sent : request ∈ issued) (waits : w.Waits request)
    (user : (∃ id, event = .cancel id ∨ event = .cancelRequest id) ∨
      ∃ other, event = .dropRequest other) : w.SettlesCall event request := by
  have after := perform_of_room room
  rcases user with ⟨id, asks⟩ | ⟨other, rfl⟩
  · by_cases held : w.client.isHeld = true
    · refine settles_of_cancel reached waits held asks ?_
      rw [after]
      unfold occur
      rcases asks with rfl | rfl
      · dsimp only
        rw [if_pos held]
        unfold Client.cancel Session.cancel?
        dsimp only
        cases w.client.session.correlator.cancel? id <;> rfl
      · dsimp only
        rw [if_pos held]
        unfold Client.cancelRequest Session.cancelRequest? Session.cancel?
        dsimp only
        cases w.client.session.correlator.cancel? id with
        | none => rfl
        | some next => exact correlator_tellCancelled ..
    · refine settles_of_same waits ?_
      rw [after]
      unfold occur
      rcases asks with rfl | rfl
      · dsimp only
        rw [if_neg held]
      · dsimp only
        rw [if_neg held]
  · unfold occur at after
    dsimp only at after
    by_cases held : other ∈ w.held
    · rw [if_pos held] at after
      refine settles_of_abandon reached.wellFormed waits (by rw [after]; rfl) fun serial => .inl ?_
      have among : other ∈ issued := accounts.mem_issued
        (List.mem_append_right _ (mem_requests.mpr (.inl held)))
      obtain rfl := accounts.eq_of_serial among sent serial
      unfold dropped?
      dsimp only
      rw [if_pos held]
    · rw [if_neg held] at after
      exact settles_of_same waits (by rw [after])

/-- With the session its calls fail, but whoever waits may have given up at this very event. -/
theorem settles_of_drop (reached : Outline.Reachable settings medium w.client.outline)
    (patient : w.client.IsPatient) (room : w.client.session.correlator.size ≤ mostCalls)
    (tended : w.client.outline.IsTended) (alive : w.client.session.isDropped = false)
    (waits : w.Waits request) (hasRoom : w.hasRoom event = true)
    (dropped : (w.perform event).client.session.isDropped = true) :
    w.SettlesCall event request := by
  by_cases own : ∃ job receiver stage, w.acting? event = some job ∧
      job.activity = .await request receiver stage
  · obtain ⟨job, receiver, stage, acts, activity⟩ := own
    refine .inr ?_
    cases goesOn : job.isCancelled with
    | true => exact .inl (dropped?_of_cancelled acts goesOn activity)
    | false =>
      cases stage with
      | looking =>
        -- nothing is seen, so that the session stays
        have after := client_perform_of_await hasRoom acts goesOn activity
        have unseen : w.client.found? request .looking = none :=
          outcome?_of_waits reached.wellFormed waits
        rw [after, (stepAwait_of_nothing unseen _ _).2] at dropped
        have same : w.client.session.isDropped = true := by
          split at dropped <;> exact dropped
        rw [alive] at same
        cases same
      | late =>
        exact .inr ⟨_, .gaveUp acts goesOn activity (deadline_of_late patient acts activity),
          .inr (resolution?_of_await acts goesOn activity)⟩
  · refine .inr (.inr ⟨_, .letGo alive dropped ?_, .inl ?_⟩)
    · exact fun job acts receiver stage activity => own ⟨job, receiver, stage, acts, activity⟩
    · obtain ⟨call, member, -, serial⟩ := waits
      have failed := fails_perform reached room tended alive dropped call member
      rwa [serial] at failed

/-- What may take single calls out of the table. -/
inductive TakesCalls (w : World) (event : Event) : Prop
  | frame {frame : Bytes} (taken : w.incoming? event = some frame)
  | timer {job : Job} {ticket : Ticket} {deadline : Nat} (acts : w.acting? event = some job)
      (goesOn : job.isCancelled = false) (activity : job.activity = .expire ticket deadline)
  | waiter {job : Job} {request : PendingRequest} {receiver : Receiver} {stage : AwaitStage}
      (acts : w.acting? event = some job) (activity : job.activity = .await request receiver stage)
  | user (asks : (∃ id, event = .cancel id ∨ event = .cancelRequest id) ∨
      ∃ request, event = .dropRequest request)

theorem takesCalls_of_acting (acts : w.acting? event = some job)
    (calls : w.client.dealing job = .calls ∨
      ∃ id, w.client.dealing job = .errand (.cancelRequest id)) : w.TakesCalls event := by
  have none {dealing : Dealing} (same : w.client.dealing job = dealing)
      (single : dealing ≠ .calls) (cancels : ∀ id, dealing ≠ .errand (.cancelRequest id)) :
      w.TakesCalls event := by
    rw [same] at calls
    rcases calls with calls | ⟨id, calls⟩
    · exact absurd calls single
    · exact absurd calls (cancels id)
  by_cases holds : job.activity.holdsSession = true
  · rcases dealing_of_holdsSession (c := w.client) holds with
      ⟨request, stage, activity⟩ | ⟨single, cancels⟩
    · exact .waiter acts activity
    · exact none rfl single cancels
  · unfold Client.dealing at none
    cases goesOn : job.isCancelled with
    | true =>
      rw [goesOn, if_pos rfl] at none
      cases activity : job.activity with
      | await request receiver stage => exact .waiter acts activity
      | _ =>
        rw [activity] at none
        exact none rfl nofun nofun
    | false =>
      rw [goesOn, if_neg Bool.false_ne_true] at none
      unfold dealingAt at none
      cases activity : job.activity with
      | await request receiver stage => exact .waiter acts activity
      | expire ticket deadline => exact .timer acts goesOn activity
      | read peer generation =>
        cases taken : w.client.incoming? job with
        | some frame => exact .frame ((incoming?_of_acting acts).trans taken)
        | none =>
          rw [activity, taken] at none
          exact none rfl nofun nofun
      | write peer generation outbox stage =>
        rw [activity] at none
        cases stage <;> exact none rfl nofun nofun
      | reply request stage =>
        rw [activity] at none
        cases stage with
        | replying response =>
          dsimp only at none
          split at none <;> exact none rfl nofun nofun
        | _ => exact none rfl nofun nofun
      | lose | call | search | shutDown | forward =>
        rw [activity] at holds
        exact absurd rfl holds

theorem takesCalls_of_dealing (calls : w.dealing event = .calls ∨
    ∃ id, w.dealing event = .errand (.cancelRequest id)) : w.TakesCalls event := by
  have none {dealing : Dealing} (same : w.dealing event = dealing)
      (single : dealing ≠ .calls) (cancels : ∀ id, dealing ≠ .errand (.cancelRequest id)) :
      w.TakesCalls event := by
    rw [same] at calls
    rcases calls with calls | ⟨id, calls⟩
    · exact absurd calls single
    · exact absurd calls (cancels id)
  unfold World.dealing at calls none
  split at calls
  · next room =>
    rw [if_pos room] at none
    cases event with
    | cancel id => exact .user (.inl ⟨id, .inl rfl⟩)
    | cancelRequest id => exact .user (.inl ⟨id, .inr rfl⟩)
    | dropRequest request => exact .user (.inr ⟨request, rfl⟩)
    | request | notify =>
      dsimp only at none
      split at none <;> exact none rfl nofun nofun
    | turn id heeds =>
      dsimp only at calls none
      cases acts : w.acting? (.turn id heeds) with
      | none =>
        rw [acts] at none
        exact none rfl nofun nofun
      | some job =>
        rw [acts] at calls
        exact takesCalls_of_acting acts calls
    | _ => exact none rfl nofun nofun
  · next full =>
    rw [if_neg full] at none
    exact none rfl nofun nofun

/-- **An event settles every call that waits.** It leaves the call alone, or its request is
dropped, or the call is removed in one of the ways that there are, and its outcome is the one
that this means. -/
theorem settles_perform (reached : Outline.Reachable settings medium w.client.outline)
    (patient : w.client.IsPatient) (room : w.client.session.correlator.size ≤ mostCalls)
    (tended : w.client.outline.IsTended) (alive : w.client.session.isDropped = false)
    (accounts : w.Accounts issued past)
    (sent : request ∈ issued) (waits : w.Waits request) (event : Event) :
    w.SettlesCall event request := by
  cases hasRoom : w.hasRoom event with
  | false => exact settles_of_same waits (by rw [perform_of_no_room hasRoom])
  | true =>
    cases kept : (w.perform event).client.session.isDropped with
    | true => exact settles_of_drop reached patient room tended alive waits hasRoom kept
    | false =>
      obtain ⟨t, deals, same | ⟨-, -, dropped⟩⟩ := comes_perform w event
      · by_cases drains : w.dealing event = .drain
        · rw [drains] at deals
          cases deals with
          | rest => exact settles_of_same waits (congrArg _ same)
          | drained =>
            obtain ⟨call, member, -, serial⟩ := waits
            have closed := congrArg Delivery.outcome? (reached.wellFormed.delivery_drain member)
            rw [serial] at closed
            refine .inr (.inr ⟨_, .drained drains, .inl ?_⟩)
            rw [same, Session.unman_eq]
            exact closed
        · by_cases calls : w.dealing event = .calls ∨
              ∃ id, w.dealing event = .errand (.cancelRequest id)
          · cases takesCalls_of_dealing calls with
            | frame taken => exact settles_of_frame reached room waits taken
            | timer acts goesOn activity =>
              exact settles_of_expire reached hasRoom accounts sent waits kept acts goesOn activity
            | @waiter job _ _ _ acts activity =>
              cases goesOn : job.isCancelled with
              | false =>
                exact settles_of_await reached patient hasRoom accounts sent waits kept acts goesOn
                  activity
              | true =>
                exact settles_of_cancelled reached hasRoom accounts sent waits kept acts goesOn
                  activity
            | user asks => exact settles_of_user reached hasRoom accounts sent waits asks
          · obtain ⟨calls, cancels⟩ := not_or.mp calls
            obtain ⟨call, member, id, serial⟩ := waits
            refine .inl ⟨call, ?_, id, serial⟩
            rw [same]
            exact deals.stays drains calls (fun id cancel => cancels ⟨id, cancel⟩) member
      · rw [dropped, Session.drop_eq] at kept
        cases kept

/-! ## One removal, one outcome -/

/-- The outcome that an event means for a request whose call it takes out of the table. -/
def verdict (w : World) (event : Event) (request : PendingRequest) : Outcome :=
  match event with
  | .cancel _ | .cancelRequest _ => .error .cancelled
  | _ =>
    match w.acting? event with
    | some job =>
      match job.activity with
      | .read .. =>
        match (w.incoming? event).map Envelope.decode with
        | some (.ok (.response response)) => response.outcome.mapError .rpc
        | _ => .error .connectionClosed
      | .expire .. => w.timeout request
      | .await other _ _ => if other = request then w.timeout request else .error .connectionClosed
      | _ => .error .connectionClosed
    | none => .error .connectionClosed

theorem reads_of_incoming {frame : Bytes} (taken : w.incoming? event = some frame) :
    ∃ job peer generation, w.acting? event = some job ∧
      job.activity = .read peer generation := by
  cases event with
  | turn id heeds =>
    unfold incoming? at taken
    dsimp only at taken
    cases found : w.client.turning? id heeds with
    | none =>
      rw [found] at taken
      cases taken
    | some job =>
      rw [found] at taken
      dsimp only at taken
      by_cases ready : w.client.isReady job = true
      · rw [if_pos ready] at taken
        unfold Client.incoming? at taken
        cases activity : job.activity with
        | read peer generation =>
          have acts := Option.filter_eq_some_iff.mpr ⟨found, ready⟩
          exact ⟨job, peer, generation, acts, activity⟩
        | _ =>
          rw [activity] at taken
          cases taken
      · rw [if_neg ready] at taken
        cases taken
  | _ => cases taken

/-- Who closes the session has no calls of its own. -/
theorem verdict_of_drain (drains : w.dealing event = .drain) (request : PendingRequest) :
    w.verdict event request = .error .connectionClosed := by
  cases event with
  | cancel id =>
    unfold World.dealing at drains
    dsimp only at drains
    split at drains <;> cases drains
  | cancelRequest id =>
    unfold World.dealing at drains
    dsimp only at drains
    split at drains
    · split at drains <;> cases drains
    · cases drains
  | turn id heeds =>
    unfold verdict
    unfold World.dealing at drains
    dsimp only at drains ⊢
    split at drains
    · cases acts : w.acting? (.turn id heeds) with
      | none => rfl
      | some job =>
        rw [acts] at drains
        dsimp only at drains ⊢
        unfold Client.dealing Client.dealingAt at drains
        cases activity : job.activity with
        | read peer generation =>
          rw [activity] at drains
          dsimp only at drains
          split at drains
          · cases drains
          · split at drains <;> cases drains
        | expire | await =>
          rw [activity] at drains
          dsimp only at drains
          split at drains <;> cases drains
        | _ => rfl
    · cases drains
  | _ => rfl

theorem Removes.eq_verdict (reached : Outline.Reachable settings medium w.client.outline)
    (room : w.client.session.correlator.size ≤ mostCalls) (tended : w.client.outline.IsTended)
    (h : w.Removes event request outcome) : outcome = w.verdict event request := by
  cases h with
  | @answered frame rpc taken decoded =>
    obtain ⟨job, peer, generation, acts, activity⟩ := reads_of_incoming taken
    obtain ⟨⟨heeds, rfl⟩, -⟩ := acting?_eq_some acts
    unfold verdict
    dsimp only
    rw [acts]
    dsimp only
    rw [activity, taken]
    dsimp only [Option.map_some]
    rw [decoded]
  | cancelled held asks => rcases asks with rfl | rfl <;> rfl
  | drained drains => exact (verdict_of_drain drains request).symm
  | letGo held drops other =>
    rcases last_holder reached room tended held drops with rfl | ⟨job, acts, holds⟩
    · rfl
    · obtain ⟨⟨heeds, rfl⟩, -⟩ := acting?_eq_some acts
      unfold verdict
      dsimp only
      rw [acts]
      dsimp only
      cases activity : job.activity with
      | read | expire =>
        rw [activity] at holds
        cases holds
      | await waited receiver stage =>
        dsimp only
        rw [if_neg]
        rintro rfl
        exact other job acts receiver stage activity
      | _ => rfl
  | @expired job acts goesOn activity due =>
    obtain ⟨⟨heeds, rfl⟩, -⟩ := acting?_eq_some acts
    unfold verdict
    dsimp only
    rw [acts]
    dsimp only
    rw [activity]
  | @gaveUp job receiver acts goesOn activity due =>
    obtain ⟨⟨heeds, rfl⟩, -⟩ := acting?_eq_some acts
    unfold verdict
    dsimp only
    rw [acts]
    dsimp only
    rw [activity]
    exact (if_pos rfl).symm

end World

end LspClient
