import LspClient.Proofs.Client.Closing
import LspClient.Proofs.Client.Requests

/-!
# Calls survive a new connection

A reader or writer that finds its connection lost, the report, the delays, the attempts and
the installation of the next connection are all steps of jobs that have nothing to do with
calls (`Activity.isOfConnection`). Each such step deals with the connection alone or, once
the session is closed, fails all calls. So unless the session gets closed or dropped, any
number of them leaves the calls, the counters and the handlers as they were
(`World.keeps_performAll`), and a call that was outstanding before the first of them is
completed by a response that comes in after the last (`World.survives_reconnect`).
-/

namespace LspClient

/-- Whether the job belongs to a connection, or looks for one. -/
def Activity.isOfConnection : Activity → Bool
  | .read .. | .write .. | .lose .. | .search .. => true
  | _ => false

/-! ## Only a closed session fails its calls -/

namespace Outline

variable {settings : Settings} {medium : Medium} {k k' : Outline} {id : JobId} {a b : Activity}
  {j : JobId × Activity}

theorem Move.isDraining (h : k.Move id a b) : b.isDraining = false := by
  have before {why : Search} {stage : SearchStage} {attempt : Nat}
      (h : stage.IsBefore attempt) : (Activity.search why stage).isDraining = false := by
    cases stage with
    | backingOff | checking => rfl
    | _ => cases h
  have failure (why : Search) (error : SessionError) :
      (Activity.search why (why.afterFailure error)).isDraining = false := by
    cases why <;> cases error <;> rfl
  cases h with
  | passed _ _ early | retried _ early => exact before early
  | outdated | declined => exact failure ..
  | _ => rfl

/-- A job that still has to fail the calls did so before, or it has just closed the session. -/
theorem Shift.draining_cases (h : k.Shift id a k') (hj : j ∈ k'.jobs)
    (drains : j.2.isDraining = true) : j ∈ k.jobs ∨ k'.session.lifecycle = .closed := by
  have put {m : Outline} {b : Activity} (other : b.isDraining = false)
      (hj : j ∈ (m.put id b).jobs) : j ∈ m.jobs := by
    rcases mem_put.mp hj with old | ⟨rfl, -⟩
    · exact old.1
    · rw [other] at drains
      cases drains
  have add {m : Outline} {b : Activity} (other : b.isDraining = false)
      (hj : j ∈ (m.add b).jobs) : j ∈ m.jobs := by
    rcases mem_add.mp hj with old | rfl
    · exact old
    · rw [other] at drains
      cases drains
  cases h with
  | move step => exact .inl (put step.isDraining hj)
  | desert | drainLoss | giveUpPlace => exact .inl (mem_erase.mp hj).1
  | take | degrade | enter | queue | «open» | accept => exact .inl (put rfl hj)
  | recover => exact .inl (add rfl (mem_erase.mp hj).1)
  | close _ closed =>
    obtain ⟨-, rfl⟩ := Session.close?_eq_some_iff.mp closed
    exact .inr rfl
  | drain drains =>
    refine .inl ?_
    cases drains <;> exact put rfl hj
  | install => exact .inl (add rfl (add rfl (put rfl hj)))
  | report | leave | giveUpGate =>
    rw [← jobs_openGate k]
    exact .inl (mem_erase.mp hj).1

theorem Reachable.closed_of_isDraining (h : Reachable settings medium k) (hj : j ∈ k.jobs)
    (drains : j.2.isDraining = true) : k.session.lifecycle = .closed := by
  induction h with
  | start => exact absurd hj List.not_mem_nil
  | stir _ stir ih =>
    rw [stir.same_state.1]
    rcases stir.mem_cases hj with old | aside | first
    · exact ih old
    · rw [(Activity.fixed_of_isDraining drains).1] at aside
      cases aside
    · rw [first] at drains
      cases drains
  | shift _ _ shift ih =>
    rcases shift.draining_cases hj drains with old | closed
    · exact (shift.relinks.shuts (ih old)).lifecycle
    · exact closed

end Outline

/-! ## What such a step leaves alone -/

namespace Client

variable {c : Client} {job : Job}

/-- A job of a connection deals with the connection alone, unless it has to fail the calls. -/
theorem dealing_of_connection (own : job.activity.isOfConnection = true)
    (nothing : c.incoming? job = none) : (c.dealing job).isOfConnection = true ∨
      c.dealing job = .drain ∧ job.activity.isDraining = true := by
  unfold dealing
  split
  · cases activity : job.activity with
    | await =>
      rw [activity] at own
      cases own
    | _ => exact .inl rfl
  · unfold dealingAt
    cases activity : job.activity with
    | read =>
      refine .inl ?_
      dsimp only
      rw [nothing]
      rfl
    | write _ _ _ stage => cases stage <;> exact .inl rfl
    | lose _ _ stage =>
      cases stage with
      | draining => exact .inr ⟨rfl, rfl⟩
      | _ => exact .inl rfl
    | search why stage =>
      cases stage with
      | draining => exact .inr ⟨rfl, rfl⟩
      | installing =>
        refine .inl ?_
        dsimp only
        split <;> rfl
      | _ => exact .inl rfl
    | _ =>
      rw [activity] at own
      cases own

end Client

namespace World

variable {settings : Settings} {medium : Medium} {w : World} {event : Event}
  {segment : List Event}

/-- Whether an event is a step of a job that belongs to a connection or looks for one, but no
frame is taken in, or time passes, or the server or the medium does something. -/
def isOfConnection (w : World) (event : Event) : Bool :=
  match event with
  | .turn .. =>
    (w.acting? event).all (·.activity.isOfConnection) && (w.incoming? event).isNone
  | .wait _ | .serve _ => true
  | _ => false

/-- Whether all events, one after another, are of that kind. -/
def areOfConnection (w : World) : List Event → Bool
  | [] => true
  | event :: rest => w.isOfConnection event && (w.perform event).areOfConnection rest

theorem incoming?_of_acting {job : Job} (acts : w.acting? event = some job) :
    w.incoming? event = w.client.incoming? job := by
  cases event with
  | turn id heeds =>
    obtain ⟨found, ready⟩ := Option.filter_eq_some_iff.mp acts
    unfold incoming?
    dsimp only
    rw [found]
    exact if_pos ready
  | _ => cases acts

theorem dealing_of_connection (own : w.isOfConnection event = true) :
    (w.dealing event).isOfConnection = true ∨
      w.dealing event = .drain ∧ ∃ j ∈ w.client.outline.jobs, j.2.isDraining = true := by
  unfold dealing
  split
  · cases event with
    | turn id heeds =>
      dsimp only
      cases acts : w.acting? (.turn id heeds) with
      | none => exact .inl rfl
      | some job =>
        obtain ⟨ours, nothing⟩ := Bool.and_eq_true_iff.mp own
        rw [acts] at ours
        rw [incoming?_of_acting acts] at nothing
        obtain ⟨-, live, -⟩ := acting?_eq_some acts
        rcases Client.dealing_of_connection ours (Option.isNone_iff_eq_none.mp nothing) with
          link | ⟨drain, drains⟩
        · exact .inl link
        · exact .inr ⟨drain, _, live, drains⟩
    | wait | serve => exact .inl rfl
    | _ => cases own
  · exact .inl rfl

/-- Calls, counters and handlers are the same in both, and no request has come to its end in
between. -/
structure KeepsCalls (w w' : World) : Prop where
  session : w.client.session.SameCalls w'.client.session
  held : w'.held = w.held
  requests : ∀ request ∈ w.requests, request ∈ w'.requests

theorem KeepsCalls.trans {w' w'' : World} (h : w.KeepsCalls w') (h' : w'.KeepsCalls w'') :
    w.KeepsCalls w'' where
  session := h.session.trans h'.session
  held := h'.held.trans h.held
  requests request alive := h'.requests request (h.requests request alive)

theorem held_perform (own : w.isOfConnection event = true) : (w.perform event).held = w.held := by
  cases room : w.hasRoom event with
  | false => rw [perform_of_no_room room]
  | true =>
    rw [perform_of_room room]
    cases event with
    | turn | wait => rfl
    | serve =>
      unfold occur
      dsimp only
      split <;> rfl
    | _ => cases own

/-- Whoever waits for a call goes on waiting. -/
theorem awaits_perform (reached : Outline.Reachable settings medium w.client.outline)
    (room : w.client.session.correlator.size ≤ mostCalls) (own : w.isOfConnection event = true)
    {id : JobId} {request : PendingRequest} {receiver : Receiver} {stage : AwaitStage}
    (live : (id, .await request receiver stage) ∈ w.client.outline.jobs) :
    (id, .await request receiver stage) ∈ (w.perform event).client.outline.jobs := by
  by_cases turn : event.isTurn id = true
  · obtain ⟨heeds, rfl⟩ := exists_turn_of_isTurn turn
    have nobody : w.acting? (.turn id heeds) = none := by
      cases acts : w.acting? (.turn id heeds) with
      | none => rfl
      | some job =>
        obtain ⟨⟨_, same⟩, live', -, -⟩ := acting?_eq_some acts
        cases same
        have ours := (Bool.and_eq_true_iff.mp own).1
        rw [acts, Option.all_some, reached.orderly.unique live' live] at ours
        cases ours
    rw [perform_of_idle nobody]
    exact live
  · exact (happens_perform room event).mem_of_ne live (Bool.eq_false_iff.mpr turn)

theorem isDropped_perform (dropped : w.client.session.isDropped = true) (event : Event) :
    (w.perform event).client.session.isDropped = true := by
  obtain ⟨t, deals, same | ⟨-, -, gone⟩⟩ := comes_perform w event
  · rw [same, deals.isDropped_eq]
    exact dropped
  · rw [gone, Session.drop_eq]

theorem isDropped_performAll (dropped : w.client.session.isDropped = true)
    (events : List Event) : (w.performAll events).client.session.isDropped = true := by
  induction events generalizing w with
  | nil => exact dropped
  | cons event rest ih => exact ih (isDropped_perform dropped event)

theorem keeps_perform (reached : Outline.Reachable settings medium w.client.outline)
    (room : w.client.session.correlator.size ≤ mostCalls) (own : w.isOfConnection event = true)
    (notClosed : (w.perform event).client.session.lifecycle ≠ .closed)
    (alive : (w.perform event).client.session.isDropped = false) :
    w.KeepsCalls (w.perform event) where
  session := by
    obtain ⟨t, deals, same | ⟨-, -, dropped⟩⟩ := comes_perform w event
    · rw [same]
      rcases dealing_of_connection own with link | ⟨-, j, hj, drains⟩
      · exact deals.sameCalls link
      · have closed := reached.closed_of_isDraining hj drains
        exact absurd (shuts_performAll closed [event]).lifecycle notClosed
    · rw [dropped, Session.drop_eq] at alive
      cases alive
  held := held_perform own
  requests request hrequest := by
    rcases mem_requests.mp hrequest with held | ⟨id, receiver, stage, live⟩
    · rw [← held_perform own] at held
      exact mem_requests.mpr (.inl held)
    · exact mem_requests.mpr (.inr ⟨id, receiver, stage, awaits_perform reached room own live⟩)

theorem keeps_performAll (reached : Outline.Reachable settings medium w.client.outline)
    (room : w.client.session.correlator.size ≤ mostCalls)
    (own : w.areOfConnection segment = true)
    (notClosed : (w.performAll segment).client.session.lifecycle ≠ .closed)
    (alive : (w.performAll segment).client.session.isDropped = false) :
    w.KeepsCalls (w.performAll segment) := by
  induction segment generalizing w with
  | nil => exact ⟨⟨rfl, rfl, rfl⟩, rfl, fun _ h => h⟩
  | cons event rest ih =>
    obtain ⟨first, later⟩ := Bool.and_eq_true_iff.mp own
    -- what is closed or dropped stays so
    have stillOpen : (w.perform event).client.session.lifecycle ≠ .closed := fun closed =>
      notClosed (shuts_performAll closed rest).lifecycle
    have stillAlive : (w.perform event).client.session.isDropped = false := by
      by_contra dropped
      have gone := isDropped_performAll ((Bool.not_eq_false _).mp dropped) rest
      exact Bool.eq_false_iff.mp alive gone
    exact (keeps_perform reached room first stillOpen stillAlive).trans
      (ih (Outline.reachable_perform reached event) (room_perform room event) later notClosed alive)

/-- **Calls survive the loss of the connection.** From any state of any run on, let any number
of steps follow of jobs that belong to a connection or look for one: losses, delays,
attempts, successful or not, and installations. Unless the session is closed or dropped in
the end, calls, counters and handlers are then what they were; and a response to a call that
was outstanding at first completes it, over whichever connection it comes in. -/
theorem survives_reconnect (settings : Settings) (medium : Medium) (events segment : List Event)
    (own : (run settings medium events).areOfConnection segment = true)
    (notClosed : (run settings medium (events ++ segment)).client.session.lifecycle ≠ .closed)
    (alive : (run settings medium (events ++ segment)).client.session.isDropped = false) :
    (run settings medium events).KeepsCalls (run settings medium (events ++ segment)) ∧
      ∀ call ∈ (run settings medium events).client.session.correlator.pending,
        ∀ event frame rpc,
          (run settings medium (events ++ segment)).incoming? event = some frame →
          Envelope.decode frame = .ok (.response ⟨some call.id, rpc⟩) →
          (run settings medium (events ++ segment ++ [event])).client.session.correlator.outcome?
            call.serial = some (rpc.mapError .rpc) := by
  have keeps : (run settings medium events).KeepsCalls
      (run settings medium (events ++ segment)) := by
    rw [run_append] at notClosed alive ⊢
    exact keeps_performAll (Outline.reachable_run settings medium events)
      (size_le_mostCalls settings medium events) own notClosed alive
  refine ⟨keeps, fun call member event frame rpc taken decoded => ?_⟩
  rw [← keeps.session.correlator] at member
  have wf := wellFormed_run settings medium (events ++ segment)
  rw [run_append _ _ (events ++ segment)]
  rcases answer_cases wf (size_le_mostCalls settings medium (events ++ segment)) taken decoded with
    ⟨other, next, same, answers, outline⟩ | ⟨nobody, -⟩
  · have one : other = call := wf.eq_of_id answers.waited member same
    have table := congrArg (fun k => k.session.correlator.outcome? call.serial) outline
    refine table.trans ?_
    rw [← one]
    exact answers.seen
  · exact absurd rfl (nobody call member)

/-- The server drops the first connection, and the next attempt succeeds. -/
def reconnection : List Event :=
  [.turn 0 false, .serve { peers := [{ isGone := true }], attempts := 1 }, .turn 1 false,
    .turn 1 false, .turn 1 false, .turn 4 false, .turn 4 false, .wait 250, .turn 4 false,
    .turn 4 false, .turn 4 false, .turn 4 false, .turn 4 false]

/-- A call that was sent over the first connection can be answered over the second. -/
theorem survives_reconnection :
    let before : List Event := firstConnection ++ [.request none "m" none]
    (run {} .messages (before ++ reconnection.take 4)).client.session.lifecycle = .degraded ∧
      (run {} .messages (before ++ reconnection)).client.session.lifecycle = .ready ∧
      (run {} .messages before).KeepsCalls (run {} .messages (before ++ reconnection)) ∧
      ∀ event frame rpc,
        (run {} .messages (before ++ reconnection)).incoming? event = some frame →
        Envelope.decode frame = .ok (.response ⟨some (.number 1), rpc⟩) →
        (run {} .messages (before ++ reconnection ++ [event])).client.session.correlator.outcome? 0 =
          some (rpc.mapError .rpc) := by
  intro before
  have degraded : (run {} .messages (before ++ reconnection.take 4)).client.session.lifecycle =
      .degraded := by decide +kernel
  have ready : (run {} .messages (before ++ reconnection)).client.session.lifecycle = .ready := by
    decide +kernel
  have survives := survives_reconnect {} .messages before reconnection (by decide +kernel)
    (by rw [ready]; decide) (by decide +kernel)
  have waits : (run {} .messages before).client.session.correlator.pending =
      [⟨.number 1, 0, "m", 0⟩] := by rfl
  refine ⟨degraded, ready, survives.1, survives.2 ⟨.number 1, 0, "m", 0⟩ ?_⟩
  rw [waits]
  exact List.mem_singleton.mpr rfl

end World

end LspClient
