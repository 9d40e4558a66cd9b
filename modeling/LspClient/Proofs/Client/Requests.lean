import LspClient.Proofs.Client.Answers
import LspClient.Proofs.Client.Dealing
import LspClient.Proofs.Client.Turns

/-!
# No call is leaked

A request that was sent is alive as long as the user holds it or a job waits for it
(`World.requests`). An entry comes into the table together with such a request
(`issues`), and as long as it is there the request stays: what ends a request also takes its
entry out (`stays_or_done`), whoever else may have done so before. Serial numbers are never
given out again, so an entry never belongs to a request that has ended, even if its id is
in use once more.
-/

namespace LspClient

open Correlator Outline

/-- The request that a job waits for. -/
def Activity.awaited? : Activity → Option PendingRequest
  | .await request _ _ => some request
  | _ => none

/-- The requests that are alive and have not come to an outcome: those that the user holds
and those that jobs wait for. -/
def World.requests (w : World) : List PendingRequest :=
  w.held ++ w.client.jobs.filterMap fun job => job.activity.awaited?

theorem World.mem_requests {w : World} {request : PendingRequest} :
    request ∈ w.requests ↔ request ∈ w.held ∨
      ∃ id receiver stage, (id, .await request receiver stage) ∈ w.client.outline.jobs := by
  have awaits (a : Activity) :
      a.awaited? = some request ↔ ∃ receiver stage, a = .await request receiver stage := by
    cases a with
    | await other receiver stage => simp [Activity.awaited?]
    | _ => simp [Activity.awaited?]
  unfold requests
  rw [List.mem_append, List.mem_filterMap]
  constructor
  · rintro (held | ⟨job, member, awaited⟩)
    · exact .inl held
    · obtain ⟨receiver, stage, same⟩ := (awaits _).mp awaited
      refine .inr ⟨job.id, receiver, stage, ?_⟩
      rw [← same]
      exact Client.mem_outline member
  · rintro (held | ⟨id, receiver, stage, live⟩)
    · exact .inl held
    · obtain ⟨job, member, -, same⟩ := Client.exists_job live
      exact .inr ⟨job, member, (awaits _).mpr ⟨receiver, stage, same⟩⟩

namespace Client

variable {c : Client} {id : JobId} {id? : Option RequestId} {method : String}
  {params : Option Json} {ticket : Ticket}

/-! ## Requests that are sent -/

/-- Whoever sends a request gets it with its ticket. -/
theorem request_of_sent (sent : (c.session.request id? method params c.clock).2 = .ok ticket) :
    ∃ c' request, c.request id? method params = (c', .ok request) ∧ request.ticket = ticket ∧
      c'.session = (c.session.request id? method params c.clock).1 ∧
      c.nextJob < c'.nextJob := by
  unfold request
  split
  · next refused =>
    rw [refused] at sent
    cases sent
  · next session own done =>
    rw [done] at sent ⊢
    cases sent
    exact ⟨_, _, rfl, rfl, rfl, Nat.lt_succ_self _⟩

theorem issues_stepCall (live : (id, .call method params) ∈ c.outline.jobs)
    (sent : (c.session.request none method params c.clock).2 = .ok ticket) :
    (∃ request,
      (id, .await request .keeper .looking) ∈ (c.stepCall id method params).outline.jobs ∧
      request.ticket = ticket) ∧
    (c.stepCall id method params).session =
      (c.session.request none method params c.clock).1 := by
  obtain ⟨c', request, done, own, session, -⟩ := request_of_sent sent
  have still := mem_request live none method params
  rw [done] at still
  unfold stepCall
  rw [done]
  dsimp only
  rw [outline_become]
  exact ⟨⟨request, mem_put.mpr (.inr ⟨rfl, _, still⟩), own⟩, session⟩

/-- A line that asks for a request is one that can be read. -/
theorem lineErrand?_eq_request (h : c.lineErrand? = some (.request id? method params)) :
    ∃ content rest line echo, c.console.next = .line content rest ∧
      Utf8.decode content = .ok line ∧
      CommandLine.readLine line = .ok (some (.request echo method params)) ∧ id? = none := by
  unfold lineErrand? at h
  split at h
  · next content rest next =>
    split at h
    · next line decoded =>
      split at h
      · cases h
      · next echo _ _ read =>
        cases h
        exact ⟨content, rest, line, echo, next, decoded, read, rfl⟩
      · cases h
    · cases h
  · cases h

theorem issues_stepForward {waiting : List JobId} 
    (asks : c.lineErrand? = some (.request id? method params))
    (sent : (c.session.request id? method params c.clock).2 = .ok ticket)
    (o : c.outline.Orderly) (live : (id, .forward .reading waiting) ∈ c.outline.jobs) :
    (∃ waiter request receiver, (waiter, .await request receiver .looking) ∈
        (c.stepForward id waiting .reading).outline.jobs ∧ request.ticket = ticket) ∧
    (c.stepForward id waiting .reading).session =
      (c.session.request id? method params c.clock).1 := by
  obtain ⟨content, rest, line, echo, next, decoded, read, rfl⟩ := lineErrand?_eq_request asks
  let taken : Client := { c with console := { c.console with input := rest } }
  obtain ⟨c', request, done, own, session, later⟩ := request_of_sent (c := taken) sent
  have line : taken.takeLine line =
      (c'.spawn (.await request (.printer echo) .looking), some c'.nextJob) := by
    unfold takeLine sendLine
    rw [read]
    dsimp only
    rw [done]
  have apart : c'.nextJob ≠ id := Nat.ne_of_gt (Nat.lt_trans (o.below _ live) later)
  unfold stepForward
  rw [next]
  dsimp only
  rw [decoded]
  show (∃ waiter request receiver, _ ∈ ((taken.takeLine _).1.become id _).outline.jobs ∧ _) ∧
    ((taken.takeLine _).1.become id _).session = _
  rw [line, outline_become, outline_spawn]
  refine ⟨⟨c'.nextJob, request, .printer echo, ?_, own⟩, session⟩
  exact mem_put.mpr (.inl ⟨mem_add.mpr (.inr rfl), apart⟩)

end Client

namespace World

variable {w : World} {event : Event} {id? : Option RequestId} {method : String}
  {params : Option Json} {ticket : Ticket} {settings : Settings} {medium : Medium}

theorem errand?_eq_some {errand : Errand} (h : w.errand? event = some errand) :
    w.hasRoom event = true ∧ w.dealing event = .errand errand := by
  unfold errand? at h
  split at h
  · next own =>
    cases h
    refine ⟨?_, own⟩
    by_contra full
    unfold dealing at own
    rw [if_neg full] at own
    cases own
  · cases h

/-- A request that is sent is alive afterwards, and nothing else has been done to the
session. -/
theorem issues (o : w.client.outline.Orderly)
    (asks : w.errand? event = some (.request id? method params))
    (sent : (w.client.session.request id? method params w.client.clock).2 = .ok ticket) :
    (∃ request ∈ (w.perform event).requests, request.ticket = ticket) ∧
      (w.perform event).client.session =
        (w.client.session.request id? method params w.client.clock).1 := by
  obtain ⟨room, own⟩ := errand?_eq_some asks
  have dealing := own
  unfold World.dealing at dealing
  rw [if_pos room] at dealing
  cases event with
  | turn id heeds =>
    dsimp only at dealing
    split at dealing
    · next job acts =>
      obtain ⟨-, live, -, -⟩ := acting?_eq_some acts
      have dealer := w.client.dealer job
      rw [dealing] at dealer
      obtain ⟨goesOn, ways⟩ := dealer
      have step : w.client.step job = match job.activity with
          | .call method params => w.client.stepCall job.id method params
          | .forward stage waiting => w.client.stepForward job.id waiting stage
          | _ => w.client.step job := by
        unfold Client.step
        rw [goesOn]
        cases job.activity <;> rfl
      rw [perform_of_acting room acts]
      rcases ways with ⟨rfl, activity⟩ | ⟨waiting, activity, line⟩
      · rw [activity] at live step
        obtain ⟨⟨request, waits, same⟩, session⟩ := Client.issues_stepCall live sent
        dsimp only at step ⊢
        rw [step]
        exact ⟨⟨request, mem_requests.mpr (.inr ⟨_, _, _, waits⟩), same⟩, session⟩
      · rw [activity] at live step
        obtain ⟨⟨waiter, request, receiver, waits, same⟩, session⟩ :=
          Client.issues_stepForward line sent o live
        dsimp only at step ⊢
        rw [step]
        refine ⟨⟨request, mem_requests.mpr (.inr ?_), same⟩, session⟩
        exact ⟨waiter, receiver, .looking, waits⟩
    · cases dealing
  | request id? method params =>
    dsimp only at dealing
    split at dealing
    · next held =>
      cases dealing
      obtain ⟨c', request, done, same, session, -⟩ := Client.request_of_sent sent
      have after : w.perform (.request id? method params) =
          { client := c', held := request :: w.held } := by
        rw [perform_of_room room]
        unfold occur
        dsimp only
        rw [if_pos held, done]
      rw [after]
      exact ⟨⟨request, mem_requests.mpr (.inl List.mem_cons_self), same⟩, session⟩
    · cases dealing
  | notify | cancelRequest =>
    dsimp only at dealing
    split at dealing <;> cases dealing
  | _ => cases dealing

end World

/-! ## Requests that come to their end -/

/-- Once a ticket is abandoned, no call is outstanding under its id and number. -/
theorem Session.gone_abandon {s : Session} (wf : s.correlator.WellFormed) (ticket : Ticket) :
    ∀ call ∈ ((s.abandon? ticket).getD s).correlator.pending,
      call.id = ticket.id → call.serial ≠ ticket.serial := by
  intro call member own serial
  cases abandoned : s.abandon? ticket with
  | none =>
    rw [abandoned] at member
    have found := wf.abandon?_eq_some_iff.mpr ⟨member, own, serial, rfl⟩
    have nothing := Option.map_eq_none_iff.mp abandoned
    rw [found] at nothing
    cases nothing
  | some t =>
    rw [abandoned] at member
    obtain ⟨⟨other, rest⟩, taken, rfl⟩ := Option.map_eq_some_iff.mp abandoned
    obtain ⟨-, same, -, rfl⟩ := abandon?_eq_some taken
    obtain ⟨-, apart⟩ := mem_pending_erase.mp member
    exact apart (own.trans same.symm)

namespace Client

variable {c : Client} {id : JobId} {request : PendingRequest} {receiver : Receiver}

theorem pending_finish {call : PendingCall}
    (member : call ∈ (c.finish id).session.correlator.pending) :
    call ∈ c.session.correlator.pending := by
  rcases session_reap { c with jobs := c.jobs.filter (·.id != id) } with same | ⟨-, dropped⟩
  · unfold finish at member
    rw [same] at member
    exact member
  · unfold finish at member
    rw [dropped, Session.drop_eq] at member
    have drained : call ∈ c.session.correlator.drain.pending := member
    rw [pending_drain] at drained
    exact absurd drained List.not_mem_nil

theorem pending_conclude {outcome : Outcome} {call : PendingCall}
    (member : call ∈ (c.conclude id request receiver outcome).session.correlator.pending) :
    call ∈ c.session.correlator.pending := by
  unfold conclude at member
  dsimp only at member
  split at member
  · exact pending_finish (c := (c.cancelJob request.timer).print _) member
  · exact pending_finish (c := (c.cancelJob request.timer).noteResult id _) member

/-- At its turn, whoever waits for a call goes on waiting, or is about to give it up, or the call
is not outstanding any more. -/
theorem stepAwait_cases (wf : c.session.correlator.WellFormed) (id : JobId)
    (request : PendingRequest) (receiver : Receiver) (stage : AwaitStage) :
    c.stepAwait id request receiver stage = c ∨
      c.stepAwait id request receiver stage = c.become id (.await request receiver .late) ∨
      ∀ call ∈ (c.stepAwait id request receiver stage).session.correlator.pending,
        call.id = request.ticket.id → call.serial ≠ request.ticket.serial := by
  unfold stepAwait
  cases stage with
  | looking =>
    dsimp only
    split
    · next outcome seen =>
      refine .inr (.inr fun call member _ serial => ?_)
      -- what is outstanding has come to nothing yet
      have waits := wf.waiting call (pending_conclude member)
      rw [serial] at waits
      exact not_waiting_of_outcome? seen waits
    · split
      · exact .inl rfl
      · exact .inr (.inl rfl)
  | late =>
    have gone := Session.gone_abandon wf request.ticket
    refine .inr (.inr fun call member => gone call ?_)
    dsimp only at member
    split at member
    · next session abandoned =>
      rw [abandoned]
      exact pending_conclude (c := { c with session }.log _) member
    · next kept =>
      rw [kept]
      exact pending_conclude member

end Client

namespace World

variable {w : World} {event : Event} {request : PendingRequest} {l : Ledger}
  {settings : Settings} {medium : Medium}

/-- What the user holds he holds on to, unless he awaits or drops it. -/
theorem mem_held_perform (holds : request ∈ w.held) (awaits : event ≠ .await request)
    (drops : event ≠ .dropRequest request) : request ∈ (w.perform event).held := by
  cases room : w.hasRoom event with
  | false =>
    rw [perform_of_no_room room]
    exact holds
  | true =>
    rw [perform_of_room room]
    unfold occur
    cases event with
    | request id? method params =>
      dsimp only
      split
      · split
        · exact List.mem_cons_of_mem _ holds
        · exact holds
      · exact holds
    | await other =>
      have apart : request ≠ other := fun same => awaits (by rw [same])
      dsimp only
      split
      · exact (List.mem_erase_of_ne apart).mpr holds
      · exact holds
    | dropRequest other =>
      have apart : request ≠ other := fun same => drops (by rw [same])
      dsimp only
      split
      · exact (List.mem_erase_of_ne apart).mpr holds
      · exact holds
    | turn | dropHandle | abort | type | wait => exact holds
    | notify | cancel | cancelRequest | connect | call | shutDown | forward | route | serve =>
      dsimp only
      split <;> exact holds

/-- Whether no call is outstanding under the id and the number of this request. -/
def IsDone (w : World) (request : PendingRequest) : Prop :=
  ∀ call ∈ w.client.session.correlator.pending,
    call.id = request.ticket.id → call.serial ≠ request.ticket.serial

/-- A request that the user holds stays alive, or the user drops it. -/
theorem stays_or_done_of_held (reached : Reachable settings medium w.client.outline)
    (hasRoom : w.hasRoom event = true) (held : request ∈ w.held) :
    request ∈ (w.perform event).requests ∨ (w.perform event).IsDone request := by
  by_cases awaits : event = .await request
  · subst awaits
    refine .inl (mem_requests.mpr (.inr ⟨w.client.nextJob, .caller, .looking, ?_⟩))
    rw [perform_of_room hasRoom]
    unfold occur
    dsimp only
    rw [if_pos held, Client.outline_spawn]
    exact mem_add.mpr (.inr rfl)
  · by_cases drops : event = .dropRequest request
    · subst drops
      refine .inr ?_
      rw [perform_of_room hasRoom]
      unfold occur
      dsimp only
      rw [if_pos held]
      exact Session.gone_abandon reached.wellFormed request.ticket
    · exact .inl (mem_requests.mpr (.inl (mem_held_perform held awaits drops)))

/-- A request that is awaited stays alive, or whoever awaits it has done with the call. -/
theorem stays_or_done_of_turn (reached : Reachable settings medium w.client.outline) {id : JobId}
    {heeds : Bool} {receiver : Receiver} {stage : AwaitStage}
    (hasRoom : w.hasRoom (.turn id heeds) = true)
    (live : (id, .await request receiver stage) ∈ w.client.outline.jobs) :
    request ∈ (w.perform (.turn id heeds)).requests ∨
      (w.perform (.turn id heeds)).IsDone request := by
  have wf : w.client.session.correlator.WellFormed := reached.wellFormed
  have alive : request ∈ w.requests := mem_requests.mpr (.inr ⟨id, receiver, stage, live⟩)
  rw [perform_of_room hasRoom, occur_of_acting]
  cases acts : w.acting? (.turn id heeds) with
  | none => exact .inl alive
  | some job =>
    obtain ⟨⟨_, same⟩, live', -, -⟩ := acting?_eq_some acts
    cases same
    have activity := reached.orderly.unique live' live
    dsimp only
    unfold Client.step Client.stepCancelled
    rw [activity]
    split
    · refine .inr fun call member => ?_
      exact Session.gone_abandon wf request.ticket call (Client.pending_finish member)
    · rcases Client.stepAwait_cases wf job.id request receiver stage with same | late | gone
      · dsimp only
        rw [same]
        exact .inl alive
      · refine .inl (mem_requests.mpr (.inr ⟨job.id, receiver, .late, ?_⟩))
        dsimp only
        rw [late, Client.outline_become]
        exact mem_put.mpr (.inr ⟨rfl, _, live⟩)
      · exact .inr gone

/-- A request that is alive stays so, or no call is outstanding under its id and number. -/
theorem stays_or_done (reached : Reachable settings medium w.client.outline)
    (room : w.client.session.correlator.size ≤ mostCalls) (alive : request ∈ w.requests)
    (event : Event) :
    request ∈ (w.perform event).requests ∨ (w.perform event).IsDone request := by
  cases hasRoom : w.hasRoom event with
  | false =>
    rw [perform_of_no_room hasRoom]
    exact .inl alive
  | true =>
    rcases mem_requests.mp alive with held | ⟨id, receiver, stage, live⟩
    · exact stays_or_done_of_held reached hasRoom held
    · by_cases own : event.isTurn id = true
      · obtain ⟨heeds, rfl⟩ := exists_turn_of_isTurn own
        exact stays_or_done_of_turn reached hasRoom live
      · have still := (happens_perform room event).mem_of_ne live (Bool.eq_false_iff.mpr own)
        exact .inl (mem_requests.mpr (.inr ⟨id, receiver, stage, still⟩))

/-- Two requests of one number have one id, and so does the call under that number. -/
theorem id_eq_of_serial (booked : w.Booked l) {call : PendingCall}
    (known : l.ids[request.ticket.serial]? = some request.ticket.id)
    (member : call ∈ w.client.session.correlator.pending)
    (serial : call.serial = request.ticket.serial) : call.id = request.ticket.id := by
  have member' : call ∈ l.table.pending := by
    rw [booked.outline.table]
    exact member
  have named := booked.outline.consistent.named call member'
  rw [serial, known] at named
  exact (Option.some.inj named).symm

/-! ## Runs -/

/-- Whether the table has an entry that belongs to this request. -/
def Owns (w : World) (request : PendingRequest) (call : PendingCall) : Prop :=
  request ∈ w.requests ∧ request.ticket.id = call.id ∧ request.ticket.serial = call.serial

/-- What is outstanding after an event was so before, or the event has registered it. -/
theorem mem_pending_perform {call : PendingCall}
    (member : call ∈ (w.perform event).client.session.correlator.pending) :
    call ∈ w.client.session.correlator.pending ∨ ∃ id? method params ticket,
      w.errand? event = some (.request id? method params) ∧
      (w.client.session.request id? method params w.client.clock).2 = .ok ticket ∧
      call.id = ticket.id ∧ call.serial = ticket.serial ∧
      call.serial = w.client.session.correlator.nextSerial := by
  obtain ⟨t, deals, same | ⟨-, -, dropped⟩⟩ := comes_perform w event
  · rw [same] at member
    rcases deals.mem_pending member with old | ⟨id?, method, params, ticket, own, rest⟩
    · exact .inl old
    · refine .inr ⟨id?, method, params, ticket, ?_, rest⟩
      unfold errand?
      rw [own]
  · rw [dropped, Session.drop_eq] at member
    have drained : call ∈ t.correlator.drain.pending := member
    rw [pending_drain] at drained
    exact absurd drained List.not_mem_nil

/-- Every entry belongs to a request that is alive. -/
theorem exists_owns (settings : Settings) (medium : Medium) (events : List Event) :
    ∀ call ∈ (run settings medium events).client.session.correlator.pending,
      ∃ request, (run settings medium events).Owns request call := by
  induction events using List.reverseRecOn with
  | nil => exact fun call member => absurd member List.not_mem_nil
  | append_singleton events event ih =>
    have reached := reachable_run settings medium events
    have room := size_le_mostCalls settings medium events
    rw [run_append]
    intro call member
    rcases mem_pending_perform member with old | ⟨id?, method, params, ticket, asks, sent, own⟩
    · obtain ⟨request, alive, id, serial⟩ := ih call old
      rcases stays_or_done reached room alive event with stays | done
      · exact ⟨request, stays, id, serial⟩
      · exact absurd serial.symm (done call member id.symm)
    · obtain ⟨⟨request, alive, same⟩, -⟩ := issues reached.orderly asks sent
      refine ⟨request, alive, ?_, ?_⟩
      · rw [same, own.1]
      · rw [same, own.2.1]

/-- The ledger of a run goes on and forgets no number. -/
theorem Booked.exists_performAll (h : w.Booked l)
    (room : w.client.session.correlator.size ≤ mostCalls) (events : List Event) :
    ∃ l', (w.performAll events).Booked l' ∧ ∀ (serial : Nat) (id : RequestId),
      l.ids[serial]? = some id → l'.ids[serial]? = some id := by
  induction events generalizing w l with
  | nil => exact ⟨l, h, fun _ _ known => known⟩
  | cons event rest ih =>
    obtain ⟨ops, -, booked⟩ := h.perform room event
    obtain ⟨l', booked', keeps⟩ := ih booked (room_perform room event)
    exact ⟨l', booked', fun serial id known =>
      keeps serial id (Ledger.ids_performAll h.outline.consistent ops known)⟩

/-- Whether no entry of the table has the number of this request. -/
def HasForgotten (w : World) (request : PendingRequest) : Prop :=
  ∀ call ∈ w.client.session.correlator.pending, call.serial ≠ request.ticket.serial

/-- A number that was given out is not given out again. -/
theorem HasForgotten.perform (h : w.HasForgotten request)
    (given : request.ticket.serial < w.client.session.correlator.nextSerial) (event : Event) :
    (w.perform event).HasForgotten request := by
  intro call member
  rcases mem_pending_perform member with old | ⟨_, _, _, _, -, -, -, -, next⟩
  · exact h call old
  · omega

theorem HasForgotten.performAll (booked : w.Booked l)
    (room : w.client.session.correlator.size ≤ mostCalls)
    (known : l.ids[request.ticket.serial]? = some request.ticket.id) (h : w.HasForgotten request)
    (events : List Event) : (w.performAll events).HasForgotten request := by
  induction events generalizing w l with
  | nil => exact h
  | cons event rest ih =>
    have given : request.ticket.serial < w.client.session.correlator.nextSerial := by
      show _ < w.client.outline.session.correlator.nextSerial
      rw [← booked.outline.table, ← booked.outline.consistent.counted]
      exact (List.getElem?_eq_some_iff.mp known).1
    obtain ⟨l', booked', keeps⟩ := booked.exists_performAll room [event]
    exact ih booked' (room_perform room event) (keeps _ _ known) (h.perform given event)

/-- As long as events happen, a request is alive or its number is forgotten. -/
theorem alive_or_forgotten (reached : Reachable settings medium w.client.outline)
    (booked : w.Booked l) (room : w.client.session.correlator.size ≤ mostCalls)
    (known : l.ids[request.ticket.serial]? = some request.ticket.id) (alive : request ∈ w.requests)
    (events : List Event) : request ∈ (w.performAll events).requests ∨
      (w.performAll events).HasForgotten request := by
  induction events generalizing w l with
  | nil => exact .inl alive
  | cons event rest ih =>
    obtain ⟨l', booked', keeps⟩ := booked.exists_performAll room [event]
    have known' := keeps _ _ known
    rcases stays_or_done reached room alive event with stays | done
    · exact ih (reachable_perform reached event) booked' (room_perform room event) known' stays
    · have forgotten : (w.perform event).HasForgotten request := fun call member serial =>
        done call member (id_eq_of_serial booked' known' member serial) serial
      exact .inr (forgotten.performAll booked' (room_perform room event) known' rest)

/-- What holds of every state that a run can come to, as far as calls belong to requests. -/
structure LeaksNothing (w : World) : Prop where
  /-- Every entry has the id and the number of a request that is alive. -/
  owned : ∀ call ∈ w.client.session.correlator.pending, ∃ request, w.Owns request call
  /-- No two entries belong to one request. -/
  apart : ∀ call ∈ w.client.session.correlator.pending,
    ∀ other ∈ w.client.session.correlator.pending,
      ∀ request, w.Owns request call → w.Owns request other → call = other
  bounded : w.client.session.correlator.size ≤ w.requests.length
  /-- A request that has come to an outcome or was dropped leaves no entry behind, then and ever
  after. -/
  forgotten : ∀ request ∈ w.requests, ∀ more, request ∉ (w.performAll more).requests →
    ∀ further, ((w.performAll more).performAll further).HasForgotten request

/-- There are no more entries than requests that they belong to. -/
theorem size_le_length_requests (wf : w.client.session.correlator.WellFormed)
    (owned : ∀ call ∈ w.client.session.correlator.pending, ∃ request, w.Owns request call) :
    w.client.session.correlator.size ≤ w.requests.length := by
  have different : (w.client.session.correlator.pending.map PendingCall.serial).Nodup :=
    List.pairwise_map.mpr (wf.ordered.imp Nat.ne_of_lt)
  have within : w.client.session.correlator.pending.map PendingCall.serial ⊆
      w.requests.map fun request => request.ticket.serial := by
    intro serial hserial
    obtain ⟨call, member, rfl⟩ := List.mem_map.mp hserial
    obtain ⟨request, alive, -, same⟩ := owned call member
    exact List.mem_map.mpr ⟨request, alive, same⟩
  have count := (different.subperm within).length_le
  rwa [List.length_map, List.length_map] at count

/-- **No call is leaked.** In every state that any run can come to, whoever takes calls out of
the table and in whatever order, each entry belongs to a request of its own that is alive;
and once a request has come to an outcome or was dropped, its number is gone from the table
for good, also when its id is used again. -/
theorem leaks_nothing (settings : Settings) (medium : Medium) (events : List Event) :
    LeaksNothing (run settings medium events) where
  owned := exists_owns settings medium events
  apart := by
    intro call member other member' request owns owns'
    exact (wellFormed_run settings medium events).eq_of_serial member member'
      (owns.2.2.symm.trans owns'.2.2)
  bounded := size_le_length_requests (wellFormed_run settings medium events)
    (exists_owns settings medium events)
  forgotten := by
    intro request alive more gone further
    obtain ⟨l, booked, -⟩ := exists_told settings medium events
    have room := size_le_mostCalls settings medium events
    have known : l.ids[request.ticket.serial]? = some request.ticket.id := by
      rcases mem_requests.mp alive with held | ⟨id, receiver, stage, live⟩
      · exact booked.held request held
      · exact booked.outline.tickets _ ⟨_, live, rfl⟩
    rcases alive_or_forgotten (reachable_run settings medium events) booked room known alive
      more with stays | forgotten
    · exact absurd stays gone
    · obtain ⟨l', booked', keeps⟩ := booked.exists_performAll room more
      exact forgotten.performAll booked' (room_performAll room more) (keeps _ _ known) further

end World

end LspClient
