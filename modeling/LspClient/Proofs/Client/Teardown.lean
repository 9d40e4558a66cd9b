import LspClient.Proofs.Client.Reconnect
import LspClient.Proofs.Client.Recovery
import LspClient.Proofs.Client.Replies
import LspClient.Proofs.Client.Touch

/-!
# When nobody holds the session any more

A session is held by whoever made it, as long as he has not let go of it, by operations that
are under way with a handle (`Activity.borrowsHandle`), by a job that deals with a lost
connection, and by a search for another connection. Readers, writers, replies and timers do
not hold it. It is dropped at once when the last of its holders goes (`isTended_perform`), and
then every call fails that was outstanding, and no attempt to connect is made any more.

So a search for another connection keeps the session although every handle was dropped: its
attempts go on, and so do the calls that wait, until the search is over
(`World.kept_by_reconnect`). No other job in the background does that.
-/

namespace LspClient

namespace Activity

/-- Whether the job is an operation that was begun with a handle and keeps it. -/
def borrowsHandle : Activity → Bool
  | .call .. | .await _ .keeper _ | .search .first _ | .shutDown _ | .forward .. => true
  | _ => false

/-- Whether the job is a reader or a writer that deals with the loss of its connection. -/
def isLosing : Activity → Bool
  | .lose .. => true
  | _ => false

theorem holdsSession_eq (a : Activity) :
    a.holdsSession = (a.borrowsHandle || a.isLosing || a.isReconnect) := by
  cases a with
  | await _ receiver _ => cases receiver <;> rfl
  | search why _ => cases why <;> rfl
  | _ => rfl

end Activity

/-! ## Calls that fail with the session -/

namespace Session

variable {s t : Session} {now : Nat} {dealing : Dealing} {ticket : Ticket}

/-- Every call that is outstanding in the one session still is in the other, or it has failed
because the connection is closed. -/
def ClosesAtMost (s t : Session) : Prop :=
  ∀ call ∈ s.correlator.pending, call ∈ t.correlator.pending ∨
    t.correlator.outcome? call.serial = some (.error .connectionClosed)

theorem closesAtMost_same (same : t.correlator = s.correlator) : s.ClosesAtMost t := by
  intro call member
  rw [same]
  exact .inl member

theorem closesAtMost_drain (wf : s.correlator.WellFormed)
    (same : t.correlator = s.correlator.drain) : s.ClosesAtMost t := by
  intro call member
  rw [same]
  exact .inr (congrArg Delivery.outcome? (wf.delivery_drain member))

/-- A call that is thrown away has failed for whoever waits for it. -/
theorem closesAtMost_discard (wf : s.correlator.WellFormed) {call : PendingCall}
    (member : call ∈ s.correlator.pending) : s.ClosesAtMost
      { s with correlator := (s.correlator.erase call.id).deliver call .discarded } := by
  intro other hother
  by_cases same : other.id = call.id
  · rw [wf.eq_of_id hother member same]
    have thrown := Correlator.delivery_deliver_self (c := s.correlator.erase call.id)
      (wf.given call member) .discarded
    exact .inr (congrArg Delivery.outcome? thrown)
  · exact .inl (Correlator.mem_pending_erase.mpr ⟨hother, same⟩)

theorem closesAtMost_abandon (wf : s.correlator.WellFormed) (ticket : Ticket) :
    s.ClosesAtMost ((s.abandon? ticket).getD s) := by
  cases abandoned : s.abandon? ticket with
  | none => exact closesAtMost_same rfl
  | some t =>
    obtain ⟨⟨call, rest⟩, taken, rfl⟩ := Option.map_eq_some_iff.mp abandoned
    obtain ⟨member, -, -, rfl⟩ := Correlator.abandon?_eq_some taken
    exact closesAtMost_discard wf member

/-- A session that is dropped fails its calls, and those that it has left. -/
theorem ClosesAtMost.drop (h : s.ClosesAtMost t) (wf : t.correlator.WellFormed) :
    ∀ call ∈ s.correlator.pending,
      t.drop.correlator.outcome? call.serial = some (.error .connectionClosed) := by
  intro call member
  rw [drop_eq]
  show (t.correlator.drain.delivery call.serial).outcome? = _
  by_cases waits : ∃ other ∈ t.correlator.pending, other.serial = call.serial
  · obtain ⟨other, hother, same⟩ := waits
    rw [← same, wf.delivery_drain hother]
    rfl
  · have gone : ∀ other ∈ t.correlator.pending, other.serial ≠ call.serial :=
      fun other hother same => waits ⟨other, hother, same⟩
    rw [Correlator.delivery_drain_of_not_mem gone]
    rcases h call member with still | failed
    · exact absurd rfl (gone call still)
    · exact failed

theorem Prepares.wellFormed {errand : Errand} (h : s.Prepares now errand t)
    (wf : s.correlator.WellFormed) : t.correlator.WellFormed := by
  cases h with
  | kept => exact wf
  | registered done =>
    obtain ⟨_, _, registered, rfl, -⟩ := register_eq_ok done
    exact wf.register registered
  | undone done member =>
    obtain ⟨_, _, registered, rfl, -⟩ := register_eq_ok done
    exact (wf.register registered).remove member .discarded
  | cancelled delivery member => exact wf.remove member delivery

theorem Deals.wellFormed (h : s.Deals now dealing t) (wf : s.correlator.WellFormed) :
    t.correlator.WellFormed := by
  cases h with
  | rest | routed | taken => exact wf
  | removed delivery member => exact wf.remove member delivery
  | unmanned outbox? =>
    rw [unman_eq]
    exact wf
  | drained outbox? =>
    rw [unman_eq]
    exact Correlator.wellFormed_drain _
  | lost lost =>
    obtain ⟨-, -, rfl⟩ := reportLoss?_eq_some_iff.mp lost
    exact wf
  | closed closed =>
    obtain ⟨-, rfl⟩ := close?_eq_some_iff.mp closed
    exact wf
  | installed done =>
    obtain ⟨-, rfl⟩ := install_eq_ok_iff.mp done
    exact wf
  | carriedOut errand =>
    obtain ⟨base, prepares, same⟩ := exists_prepares s now errand
    rw [same]
    exact prepares.wellFormed wf

/-- Only answers, timeouts and cancellations complete a call with something else. -/
theorem Deals.closesAtMost (h : s.Deals now dealing t) (wf : s.correlator.WellFormed)
    (calls : dealing ≠ .calls) (cancels : ∀ id, dealing ≠ .errand (.cancelRequest id)) :
    s.ClosesAtMost t := by
  intro call member
  by_cases drains : dealing = .drain
  · subst drains
    cases h with
    | rest => exact .inl member
    | drained outbox? =>
      rw [unman_eq]
      exact closesAtMost_drain (t := s.drain) wf rfl call member
  · exact .inl (h.stays drains calls cancels member)

end Session

/-! ## The last holder -/

/-- The session was dropped, or somebody holds it. -/
def Outline.IsTended (k : Outline) : Prop := k.session.isDropped = true ∨ k.IsKept

namespace Client

variable {c d : Client} {id : JobId} {a b : Activity}

theorem isKept_of_holdsSession (h : c.holdsSession = true) : c.outline.IsKept := by
  rcases Bool.or_eq_true_iff.mp h with held | holds
  · exact .inl held
  · obtain ⟨job, hjob, holds⟩ := List.any_eq_true.mp holds
    exact .inr ⟨_, List.mem_map.mpr ⟨job, hjob, rfl⟩, holds⟩

/-- A job that ends leaves no session behind that nobody holds. -/
theorem isTended_reap (c : Client) : c.reap.outline.IsTended := by
  unfold reap
  split
  · next tended =>
    rcases Bool.or_eq_true_iff.mp tended with dropped | holds
    · exact .inl dropped
    · exact .inr (isKept_of_holdsSession holds)
  · exact .inl rfl

theorem isTended_finish (c : Client) (id : JobId) : (c.finish id).outline.IsTended :=
  isTended_reap _

/-- A job that goes on holds the session. -/
theorem isTended_become (live : (id, a) ∈ c.outline.jobs) (holds : b.holdsSession = true) :
    (c.become id b).outline.IsTended := by
  rw [outline_become]
  exact .inr (.inr ⟨(id, b), Outline.mem_put.mpr (.inr ⟨rfl, a, live⟩), holds⟩)

theorem isTended_conclude {request : PendingRequest} {receiver : Receiver} {outcome : Outcome} :
    (c.conclude id request receiver outcome).outline.IsTended := by
  unfold conclude
  dsimp only
  split <;> exact isTended_finish ..

theorem isTended_close {closed : Client} {writer? : Option JobId}
    (done : c.close? = some (closed, writer?)) (live : (id, a) ∈ c.outline.jobs)
    (holds : b.holdsSession = true) : (closed.become id b).outline.IsTended := by
  obtain ⟨s, -, same⟩ := outline_close? done
  refine isTended_become (a := a) ?_ holds
  rw [same]
  exact live

theorem isTended_stepLoss {generation : Nat} {outbox? : Option Nat} {stage : LossStage}
    (live : (id, .lose generation outbox? stage) ∈ c.outline.jobs) :
    (c.stepLoss id generation outbox? stage).outline.IsTended := by
  unfold stepLoss
  cases stage with
  | reporting =>
    dsimp only
    split
    · exact isTended_finish ..
    · next session lost =>
      refine isTended_become (a := .lose generation outbox? .reporting) ?_ rfl
      show _ ∈ c.cancelReader.outline.jobs
      rw [outline_cancelReader]
      exact live
  | deciding =>
    dsimp only
    split
    · exact isTended_become (c := c.log _) live rfl
    · exact isTended_finish ..
  | closing =>
    dsimp only
    split
    · next closed _ done => exact isTended_close done live rfl
    · exact isTended_finish ..
  | draining => exact isTended_finish ..

theorem isTended_stepCall {method : String} {params : Option Json}
    (live : (id, .call method params) ∈ c.outline.jobs) :
    (c.stepCall id method params).outline.IsTended := by
  unfold stepCall
  split
  · next c' request done =>
    have still := mem_request live none method params
    rw [done] at still
    exact isTended_become still rfl
  · exact isTended_finish ..

theorem isTended_stepAwait {request : PendingRequest} {stage : AwaitStage}
    (live : (id, .await request .keeper stage) ∈ c.outline.jobs) :
    (c.stepAwait id request .keeper stage).outline.IsTended := by
  unfold stepAwait
  cases stage with
  | looking =>
    dsimp only
    split
    · exact isTended_conclude
    · split
      · exact .inr (.inr ⟨_, live, rfl⟩)
      · exact isTended_become live rfl
  | late =>
    dsimp only
    split <;> exact isTended_conclude

theorem isTended_toAttempt {why : Search} (attempt : Nat) (live : (id, a) ∈ c.outline.jobs) :
    (c.toAttempt id why attempt).outline.IsTended := by
  unfold toAttempt
  split <;> exact isTended_become live rfl

theorem isTended_failSearch {why : Search} (error : SessionError)
    (live : (id, a) ∈ c.outline.jobs) : (c.failSearch id why error).outline.IsTended := by
  unfold failSearch
  split
  · exact isTended_become live rfl
  · exact isTended_become live rfl
  · exact isTended_become (c := c.log _) live rfl

theorem isTended_nextAttempt {why : Search} (made : Nat) (last : ConnectError)
    (live : (id, a) ∈ c.outline.jobs) :
    (c.nextAttempt id why made last).outline.IsTended := by
  unfold nextAttempt
  dsimp only
  split
  · exact isTended_toAttempt _ live
  · exact isTended_failSearch _ live

theorem isTended_failAttempt {why : Search} (attempt : Nat) (error : ConnectError)
    (live : (id, a) ∈ c.outline.jobs) :
    (c.failAttempt id why attempt error).outline.IsTended :=
  isTended_nextAttempt (c := c.log _) attempt error live

theorem isTended_stepSearch {why : Search} {stage : SearchStage}
    (live : (id, .search why stage) ∈ c.outline.jobs) :
    (c.stepSearch id why stage).outline.IsTended := by
  unfold stepSearch
  cases stage with
  | arriving =>
    dsimp only
    split
    · exact isTended_become (c := { c with gateHolder? := some id }) live rfl
    · exact isTended_become (c := { c with gateQueue := c.gateQueue ++ [id] }) live rfl
  | atGate =>
    dsimp only
    split
    · exact isTended_nextAttempt _ _ live
    · exact isTended_become live rfl
  | backingOff attempt until_ => exact isTended_become live rfl
  | checking attempt =>
    dsimp only
    split
    · exact isTended_become live rfl
    · exact isTended_failSearch _ live
  | starting attempt =>
    exact isTended_become (c := { c with loopback := (c.loopback.beginOpen c.clock).1 }) live rfl
  | opening attempt number deadline resume? =>
    dsimp only
    split
    · split
      · next loopback peer opened => exact isTended_become (c := { c with loopback }) live rfl
      · next loopback e refused => exact isTended_failAttempt (c := { c with loopback }) _ _ live
    · exact isTended_failAttempt _ _ live
  | installing attempt peer =>
    dsimp only
    split
    · next session done =>
      refine isTended_become (a := .search why (.installing attempt peer)) ?_ rfl
      rw [outline_spawn, outline_spawn]
      exact Outline.mem_add.mpr (.inl (Outline.mem_add.mpr (.inl live)))
    · refine isTended_failSearch (a := .search why (.installing attempt peer)) _ ?_
      rw [outline_modifyPeer]
      exact live
  | closing error =>
    dsimp only
    split
    · next closed _ done => exact isTended_close done live rfl
    · exact isTended_become live rfl
  | draining error => exact isTended_become (c := { c with session := c.session.drain }) live rfl
  | leaving error? =>
    unfold endSearch
    cases why <;> exact isTended_finish ..

theorem isTended_stepShutdown {stage : ShutdownStage}
    (live : (id, .shutDown stage) ∈ c.outline.jobs) :
    (c.stepShutdown id stage).outline.IsTended := by
  unfold stepShutdown
  cases stage with
  | closing =>
    dsimp only
    split
    · next closed _ done => exact isTended_close done live rfl
    · exact isTended_finish ..
  | draining writer? => exact isTended_become (c := { c with session := c.session.drain }) live rfl
  | flushing writer? deadline => exact isTended_finish ..

theorem isTended_stepForward {stage : ForwardStage} {waiting : List JobId}
    (live : (id, .forward stage waiting) ∈ c.outline.jobs) :
    (c.stepForward id waiting stage).outline.IsTended := by
  unfold stepForward
  cases stage with
  | reading =>
    dsimp only
    split
    · unfold stepIdleForward
      split
      · exact isTended_finish ..
      · split
        · exact isTended_finish ..
        · exact .inr (.inr ⟨_, live, rfl⟩)
    · exact isTended_become live rfl
    · next content rest next =>
      let taken : Client := { c with console := { c.console with input := rest } }
      split
      · exact isTended_finish ..
      · exact isTended_become (mem_takeLine (c := taken) live _) rfl
  | finishing => exact isTended_finish ..

theorem isTended_stepCancelled (job : Job) : (c.stepCancelled job).outline.IsTended := by
  unfold stepCancelled
  split
  · exact isTended_finish ..
  · exact isTended_finish ..
  · unfold giveUpSearch
    split <;> exact isTended_finish ..
  · exact isTended_finish ..

/-- After the step of a job that held the session somebody does, or the session is dropped. -/
theorem isTended_step {job : Job} (live : (job.id, job.activity) ∈ c.outline.jobs)
    (holds : job.activity.holdsSession = true) : (c.step job).outline.IsTended := by
  unfold step
  split
  · exact isTended_stepCancelled job
  · cases activity : job.activity with
    | lose =>
      rw [activity] at live
      exact isTended_stepLoss live
    | call =>
      rw [activity] at live
      exact isTended_stepCall live
    | search =>
      rw [activity] at live
      exact isTended_stepSearch live
    | shutDown =>
      rw [activity] at live
      exact isTended_stepShutdown live
    | forward =>
      rw [activity] at live
      exact isTended_stepForward live
    | await request receiver stage =>
      rw [activity] at live holds
      cases receiver with
      | keeper => exact isTended_stepAwait live
      | caller | printer => cases holds
    | read | write | reply | expire =>
      rw [activity] at holds
      cases holds

end Client

namespace World

variable {w : World} {event : Event} {settings : Settings} {medium : Medium}

/-- Nobody but whoever made the session lets go of it for him. -/
theorem isHeld_perform (o : w.client.outline.Orderly) (other : event ≠ .dropHandle) :
    (w.perform event).client.isHeld = w.client.isHeld := by
  cases room : w.hasRoom event with
  | false => rw [perform_of_no_room room]
  | true =>
    rw [perform_of_room room]
    by_cases turn : ∃ id heeds, event = .turn id heeds
    · obtain ⟨id, heeds, rfl⟩ := turn
      have touches := touches_occur o (.turn id heeds)
      cases acts : w.acting? (.turn id heeds) with
      | none => rw [occur_of_acting, acts]
      | some job =>
        unfold actor? at touches
        rw [acts] at touches
        exact touches.isHeld
    · exact (occur_of_user fun id heeds same => turn ⟨id, heeds, same⟩).isHeld other

/-! ## The session is dropped with its last holder -/

/-- A session that nobody has dropped is held, whatever happens. -/
theorem isTended_perform (reached : Outline.Reachable settings medium w.client.outline)
    (room : w.client.session.correlator.size ≤ mostCalls)
    (tended : w.client.outline.IsTended) (event : Event) :
    (w.perform event).client.outline.IsTended := by
  cases hasRoom : w.hasRoom event with
  | false =>
    rw [perform_of_no_room hasRoom]
    exact tended
  | true =>
    by_cases letsGo : event = .dropHandle
    · subst letsGo
      rw [perform_of_room hasRoom]
      exact Client.isTended_reap _
    · rcases tended with dropped | held | ⟨⟨id, a⟩, live, holds⟩
      · exact .inl (isDropped_perform dropped event)
      · exact .inr (.inl ((isHeld_perform reached.orderly letsGo).trans held))
      · -- the job that holds the session goes on to hold it, or ends at its own turn
        by_cases own : event.isTurn id = true
        · obtain ⟨heeds, rfl⟩ := exists_turn_of_isTurn own
          cases acts : w.acting? (.turn id heeds) with
          | none =>
            rw [perform_of_idle acts]
            exact .inr (.inr ⟨_, live, holds⟩)
          | some job =>
            obtain ⟨⟨_, same⟩, live', -, -⟩ := acting?_eq_some acts
            cases same
            rw [perform_of_acting hasRoom acts]
            rw [← reached.orderly.unique live' live] at holds
            exact Client.isTended_step live' holds
        · have still := (happens_perform room event).mem_of_ne live (Bool.eq_false_iff.mpr own)
          exact .inr (.inr ⟨_, still, holds⟩)

theorem isTended_run (settings : Settings) (medium : Medium) (events : List Event) :
    (run settings medium events).client.outline.IsTended := by
  induction events using List.reverseRecOn with
  | nil => exact .inr (.inl rfl)
  | append_singleton events event ih =>
    rw [run_concat]
    exact isTended_perform (Outline.reachable_run settings medium events)
      (size_le_mostCalls settings medium events) ih event

/-- The session is dropped as its maker lets go of it, or at the turn of a job that held it. -/
theorem last_holder (reached : Outline.Reachable settings medium w.client.outline)
    (room : w.client.session.correlator.size ≤ mostCalls) (tended : w.client.outline.IsTended)
    (alive : w.client.session.isDropped = false)
    (dropped : (w.perform event).client.session.isDropped = true) :
    event = .dropHandle ∨ ∃ job, w.acting? event = some job ∧
      job.activity.holdsSession = true := by
  have nobody := (Outline.reachable_perform reached event).not_isKept dropped
  by_contra other
  obtain ⟨keepsHandle, keepsJobs⟩ := not_or.mp other
  rcases tended with gone | held | ⟨⟨id, a⟩, live, holds⟩
  · rw [show w.client.session.isDropped = true from gone] at alive
    cases alive
  · exact nobody (.inl ((isHeld_perform reached.orderly keepsHandle).trans held))
  · by_cases own : event.isTurn id = true
    · obtain ⟨heeds, rfl⟩ := exists_turn_of_isTurn own
      cases acts : w.acting? (.turn id heeds) with
      | none =>
        rw [perform_of_idle acts] at nobody
        exact nobody (.inr ⟨_, live, holds⟩)
      | some job =>
        obtain ⟨⟨_, same⟩, live', -, -⟩ := acting?_eq_some acts
        cases same
        refine keepsJobs ⟨job, acts, ?_⟩
        rw [reached.orderly.unique live' live]
        exact holds
    · have still := (happens_perform room event).mem_of_ne live (Bool.eq_false_iff.mpr own)
      exact nobody (.inr ⟨_, still, holds⟩)

end World

namespace Client

variable {c : Client} {id : JobId}

/-! ## What becomes of the calls -/

/-- Of those who hold the session only who waits for a call takes it out of the table. -/
theorem dealing_of_holdsSession {job : Job} (holds : job.activity.holdsSession = true) :
    (∃ request stage, job.activity = .await request .keeper stage) ∨
      c.dealing job ≠ .calls ∧ ∀ id, c.dealing job ≠ .errand (.cancelRequest id) := by
  unfold dealing dealingAt
  cases activity : job.activity with
  | await request receiver stage =>
    rw [activity] at holds
    cases receiver with
    | keeper => exact .inl ⟨request, stage, rfl⟩
    | caller | printer => cases holds
  | read | write | reply | expire =>
    rw [activity] at holds
    cases holds
  | call =>
    refine .inr ?_
    split <;> exact ⟨nofun, nofun⟩
  | lose _ _ stage | shutDown stage =>
    refine .inr ?_
    cases stage <;> split <;> exact ⟨nofun, nofun⟩
  | search why stage =>
    refine .inr ?_
    cases stage with
    | installing =>
      dsimp only
      split
      · exact ⟨nofun, nofun⟩
      · split <;> exact ⟨nofun, nofun⟩
    | _ => split <;> exact ⟨nofun, nofun⟩
  | forward stage waiting =>
    refine .inr ?_
    cases stage with
    | finishing => split <;> exact ⟨nofun, nofun⟩
    | reading =>
      dsimp only
      unfold lineErrand?
      split
      · exact ⟨nofun, nofun⟩
      · split
        · next asks =>
          refine ⟨nofun, fun id same => ?_⟩
          cases same
          split at asks
          · split at asks
            · split at asks <;> cases asks
            · cases asks
          · cases asks
        · exact ⟨nofun, nofun⟩

/-- Outstanding calls at most fail from one session to the other, which is as sound as that. -/
structure Spares (s t : Session) : Prop where
  calls : s.ClosesAtMost t
  wellFormed : t.correlator.WellFormed
  isDropped : t.isDropped = s.isDropped

theorem spares_abandon {s : Session} (wf : s.correlator.WellFormed) (ticket : Ticket) :
    Spares s ((s.abandon? ticket).getD s) where
  calls := Session.closesAtMost_abandon wf ticket
  wellFormed := by
    cases abandoned : s.abandon? ticket with
    | none => exact wf
    | some t =>
      have deals : s.Deals 0 .calls t := Session.deals_abandon? abandoned
      exact deals.wellFormed wf
  isDropped := by
    cases abandoned : s.abandon? ticket with
    | none => rfl
    | some t =>
      have deals : s.Deals 0 .calls t := Session.deals_abandon? abandoned
      exact deals.isDropped_eq

/-- A step spares the calls, but that the session may be dropped at the end. -/
def Closes (c c' : Client) : Prop :=
  ∃ t, Spares c.session t ∧ (c'.session = t ∨ c'.session = t.drop)

theorem closes_finish {d : Client} (spares : Spares c.session d.session) :
    c.Closes (d.finish id) :=
  ⟨d.session, spares, session_finish d id⟩

theorem closes_conclude {d : Client} {request : PendingRequest} {receiver : Receiver}
    {outcome : Outcome} (spares : Spares c.session d.session) :
    c.Closes (d.conclude id request receiver outcome) := by
  unfold conclude
  dsimp only
  split
  · exact closes_finish (d := (d.cancelJob request.timer).print _) spares
  · exact closes_finish (d := (d.cancelJob request.timer).noteResult id _) spares

theorem closes_stepAwait (wf : c.session.correlator.WellFormed) {request : PendingRequest}
    {receiver : Receiver} {stage : AwaitStage} :
    c.Closes (c.stepAwait id request receiver stage) := by
  have same : Spares c.session c.session := ⟨Session.closesAtMost_same rfl, wf, rfl⟩
  have left := spares_abandon wf request.ticket
  unfold stepAwait
  cases stage with
  | looking =>
    dsimp only
    split
    · exact closes_conclude same
    · split <;> exact ⟨c.session, same, .inl rfl⟩
  | late =>
    dsimp only
    split
    · next session abandoned =>
      rw [abandoned] at left
      exact closes_conclude (d := { c with session }.log [timeoutRecord request.ticket]) left
    · exact closes_conclude same

/-- The step of a job that holds the session completes no call, but that some may fail. -/
theorem closes_step (wf : c.session.correlator.WellFormed) {job : Job}
    (holds : job.activity.holdsSession = true) : c.Closes (c.step job) := by
  rcases dealing_of_holdsSession (c := c) holds with
    ⟨request, stage, activity⟩ | ⟨calls, cancels⟩
  · unfold step stepCancelled
    rw [activity]
    split
    · exact closes_finish (d := c.dropRequest request) (spares_abandon wf request.ticket)
    · exact closes_stepAwait wf
  · obtain ⟨t, deals, session⟩ := comes_step (c := c) job
    refine ⟨t, ⟨deals.closesAtMost wf calls cancels, deals.wellFormed wf, deals.isDropped_eq⟩, ?_⟩
    rcases session with same | ⟨-, -, dropped⟩
    · exact .inl same
    · exact .inr dropped

end Client

namespace World

variable {w : World} {event : Event} {settings : Settings} {medium : Medium}

/-- With the session its calls fail. -/
theorem fails_perform (reached : Outline.Reachable settings medium w.client.outline)
    (room : w.client.session.correlator.size ≤ mostCalls) (tended : w.client.outline.IsTended)
    (alive : w.client.session.isDropped = false)
    (dropped : (w.perform event).client.session.isDropped = true) :
    ∀ call ∈ w.client.session.correlator.pending,
      (w.perform event).client.session.correlator.outcome? call.serial =
        some (.error .connectionClosed) := by
  have wf : w.client.session.correlator.WellFormed := reached.wellFormed
  have hasRoom : w.hasRoom event = true := by
    by_contra full
    rw [perform_of_no_room ((Bool.not_eq_true _).mp full), alive] at dropped
    cases dropped
  have closes : w.client.Closes (w.perform event).client := by
    rcases last_holder reached room tended alive dropped with rfl | ⟨job, acts, holds⟩
    · rw [perform_of_room hasRoom]
      refine ⟨w.client.session, ⟨Session.closesAtMost_same rfl, wf, rfl⟩, ?_⟩
      rcases Client.session_reap { w.client with isHeld := false } with same | ⟨-, gone⟩
      · exact .inl same
      · exact .inr gone
    · rw [perform_of_acting hasRoom acts]
      exact Client.closes_step wf holds
  obtain ⟨t, spares, same | gone⟩ := closes
  · rw [same, spares.isDropped, alive] at dropped
    cases dropped
  · rw [gone]
    exact spares.calls.drop spares.wellFormed

/-! ## Nothing goes on after that -/

/-- Only somebody who holds the session sends a request. -/
theorem isKept_of_request {id? : Option RequestId} {method : String} {params : Option Json}
    (asks : w.errand? event = some (.request id? method params)) : w.client.outline.IsKept := by
  obtain ⟨room, dealing⟩ := errand?_eq_some asks
  unfold World.dealing at dealing
  rw [if_pos room] at dealing
  cases event with
  | turn id heeds =>
    dsimp only at dealing
    split at dealing
    · next job acts =>
      obtain ⟨-, live, -, -⟩ := acting?_eq_some acts
      have dealer := w.client.dealer job
      rw [dealing] at dealer
      obtain ⟨-, ⟨-, activity⟩ | ⟨waiting, activity, -⟩⟩ := dealer
      · exact .inr ⟨_, live, by rw [activity]; rfl⟩
      · exact .inr ⟨_, live, by rw [activity]; rfl⟩
    · cases dealing
  | request =>
    dsimp only at dealing
    split at dealing
    · next held => exact .inl held
    · cases dealing
  | notify | cancelRequest =>
    dsimp only at dealing
    split at dealing <;> cases dealing
  | _ => cases dealing

/-- A session that was dropped waits for no call. -/
theorem pending_of_isDropped (settings : Settings) (medium : Medium) (events : List Event)
    (dropped : (run settings medium events).client.session.isDropped = true) :
    (run settings medium events).client.session.correlator.pending = [] := by
  induction events using List.reverseRecOn with
  | nil => cases dropped
  | append_singleton events event ih =>
    rw [run_concat] at dropped ⊢
    refine List.eq_nil_iff_forall_not_mem.mpr fun call member => ?_
    cases before : (run settings medium events).client.session.isDropped with
    | true =>
      rcases mem_pending_perform member with old | ⟨_, _, _, _, asks, -⟩
      · rw [ih before] at old
        exact absurd old List.not_mem_nil
      · exact (Outline.reachable_run settings medium events).not_isKept before
          (isKept_of_request asks)
    | false =>
      obtain ⟨t, deals, same | ⟨-, -, gone⟩⟩ := comes_perform (run settings medium events) event
      · rw [same, deals.isDropped_eq, before] at dropped
        cases dropped
      · rw [gone, Session.drop_eq] at member
        have drained : call ∈ t.correlator.drain.pending := member
        rw [Correlator.pending_drain] at drained
        exact absurd drained List.not_mem_nil

end World

/-- If an attempt is made, a search makes it. -/
theorem Outline.Follows.attempts_eq {k k' : Outline} {event : Event} (h : k.Follows event k') :
    k'.attempts = k.attempts ∨ ∃ id heeds why stage, event = .turn id heeds ∧
      (id, .search why stage) ∈ k.jobs := by
  rcases h.attempts_cases with same | ⟨id, heeds, why, attempt, turn, live⟩
  · exact .inl same
  · exact .inr ⟨id, heeds, why, .starting attempt, turn, live⟩

namespace World

variable {w : World} {event : Event} {settings : Settings} {medium : Medium}

/-- A session that was dropped makes no attempt. -/
theorem attempts_of_isDropped (reached : Outline.Reachable settings medium w.client.outline)
    (dropped : w.client.session.isDropped = true) (later : List Event) :
    (w.performAll later).client.loopback.attempts = w.client.loopback.attempts := by
  induction later generalizing w with
  | nil => rfl
  | cons event rest ih =>
    have first : (w.perform event).client.loopback.attempts = w.client.loopback.attempts := by
      rcases (follows_perform w event).attempts_eq with same | ⟨id, _, why, stage, -, live⟩
      · exact same
      · exact absurd (.inr ⟨_, live, rfl⟩) (reached.not_isKept dropped)
    exact (ih (Outline.reachable_perform reached event) (isDropped_perform dropped event)).trans
      first

/-- Whether every handle was dropped, also by those who have begun an operation with it, and
no reader or writer is at dealing with the loss of its connection. -/
def IsReleased (w : World) : Prop :=
  w.client.isHeld = false ∧
    ∀ job ∈ w.client.jobs, (job.activity.borrowsHandle || job.activity.isLosing) = false

instance (w : World) : Decidable w.IsReleased :=
  inferInstanceAs (Decidable (_ ∧ ∀ job ∈ w.client.jobs, _))

/-- What holds of every state that a run can come to, as far as the end of the session is
concerned. -/
structure TearsDown (w : World) : Prop where
  /-- The session is dropped as soon as nobody holds it any more, and no sooner. -/
  dropped_iff : w.client.session.isDropped = true ↔ ¬ w.client.outline.IsKept
  /-- Once every handle was dropped, nothing but a search for another connection can keep the
  session. -/
  released : w.IsReleased → w.client.session.isDropped = true ∨
    ∃ job ∈ w.client.jobs, job.activity.isReconnect = true
  /-- From then on only such a search makes attempts. -/
  searches : w.IsReleased → ∀ event,
    (w.perform event).client.loopback.attempts ≠ w.client.loopback.attempts →
    ∃ job ∈ w.client.jobs, job.activity.isReconnect = true ∧ event.isTurn job.id = true
  /-- As the session is dropped, every call fails that was outstanding. -/
  fails : w.client.session.isDropped = false → ∀ event,
    (w.perform event).client.session.isDropped = true →
    ∀ call ∈ w.client.session.correlator.pending,
      (w.perform event).client.session.correlator.outcome? call.serial =
        some (.error .connectionClosed)
  /-- A session that was dropped stays so; no call is outstanding any more, and no attempt is
  made. -/
  afterwards : w.client.session.isDropped = true → ∀ later,
    (w.performAll later).client.session.isDropped = true ∧
      (w.performAll later).client.session.correlator.pending = [] ∧
      (w.performAll later).client.loopback.attempts = w.client.loopback.attempts

/-- Whoever holds a session that was released looks for another connection. -/
theorem isReconnect_of_isReleased (released : w.IsReleased) {id : JobId} {a : Activity}
    (live : (id, a) ∈ w.client.outline.jobs) (holds : a.holdsSession = true) :
    ∃ job ∈ w.client.jobs, job.id = id ∧ job.activity.isReconnect = true := by
  obtain ⟨job, hjob, ids, activity⟩ := Client.exists_job live
  refine ⟨job, hjob, ids, ?_⟩
  rw [← activity, Activity.holdsSession_eq, released.2 job hjob, Bool.false_or] at holds
  exact holds

/-- **The session ends with its last holder.** In every state of every run the session is there
if and only if somebody holds it; with it go its calls, and nothing is attempted any more. Of
the jobs in the background only a search for another connection holds it on. -/
theorem tears_down (settings : Settings) (medium : Medium) (events : List Event) :
    TearsDown (run settings medium events) where
  dropped_iff := by
    refine ⟨(Outline.reachable_run settings medium events).not_isKept, fun nobody => ?_⟩
    rcases isTended_run settings medium events with dropped | kept
    · exact dropped
    · exact absurd kept nobody
  released released := by
    rcases isTended_run settings medium events with dropped | held | ⟨j, live, holds⟩
    · exact .inl dropped
    · rw [show (run settings medium events).client.outline.isHeld = false from released.1] at held
      cases held
    · obtain ⟨job, hjob, -, searches⟩ := isReconnect_of_isReleased released live holds
      exact .inr ⟨job, hjob, searches⟩
  searches released event more := by
    rcases (follows_perform (run settings medium events) event).attempts_eq with
      same | ⟨id, heeds, why, stage, rfl, live⟩
    · exact absurd same more
    · obtain ⟨job, hjob, rfl, searches⟩ := isReconnect_of_isReleased released live rfl
      exact ⟨job, hjob, searches, Event.isTurn_turn job.id heeds⟩
  fails alive event dropped :=
    fails_perform (Outline.reachable_run settings medium events)
      (size_le_mostCalls settings medium events) (isTended_run settings medium events) alive
      dropped
  afterwards dropped later := by
    have still := isDropped_performAll dropped later
    have empty := pending_of_isDropped settings medium (events ++ later)
    rw [run_append] at empty
    exact ⟨still, empty still,
      attempts_of_isDropped (Outline.reachable_run settings medium events) dropped later⟩

/-- The server drops the first connection while a call is outstanding, and then the only handle
is dropped. The search for another connection keeps the session, makes an attempt after its
delay, and the call still waits. -/
theorem kept_by_reconnect :
    let events : List Event :=
      firstConnection ++ [.request none "m" none] ++ reconnection.take 7 ++ [.dropHandle]
    let released := run {} .messages events
    let later := released.performAll [.wait 250, .turn 4 false, .turn 4 false, .turn 4 false]
    released.IsReleased ∧ released.client.session.isDropped = false ∧
      released.client.loopback.attempts = 1 ∧
      later.IsReleased ∧ later.client.loopback.attempts = 2 ∧
      later.client.session.correlator.size = 1 := by decide +kernel

end World

end LspClient
