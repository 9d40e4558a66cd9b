import LspClient.Proofs.Client.Burden

/-!
# Each request comes to an end once

A request that an event sends (`World.issued?`) has a number that no request had before, and
its timer has its ticket and its deadline (`World.Accounts`). It is alive in one place, with
the user or with a job, until an event ends it: whoever waits for it takes its outcome
(`World.resolution?`), or it is dropped (`World.dropped?`). After that it is nowhere
(`World.ended_perform`), so that no request of a run ends twice (`World.nodup_ended`).
-/

namespace LspClient

open Client

/-- The ticket and the deadline of a timer. -/
def Activity.timer? : Activity → Option (Ticket × Nat)
  | .expire ticket deadline => some (ticket, deadline)
  | _ => none

theorem Activity.isBurden_timer? : Activity.IsBurden Activity.timer? where
  work a work := by cases a <;> first | rfl | cases work
  shutDown _ _ := rfl
  await _ _ _ _ _ := rfl

theorem Activity.isBurden_awaited? : Activity.IsBurden Activity.awaited? where
  work a work := by cases a <;> first | rfl | cases work
  shutDown _ _ := rfl
  await _ _ _ _ _ := rfl

namespace World

variable {w : World} {event : Event} {request : PendingRequest} {job : Job}
  {settings : Settings} {medium : Medium} {events : List Event}

/-! ## Requests that are sent -/

/-- How an event comes to send a request. -/
structure Sends (w : World) (event : Event) (request : PendingRequest) : Prop where
  asks : ∃ id? params, w.errand? event = some (.request id? request.ticket.method params) ∧
    (w.client.session.request id? request.ticket.method params w.client.clock).2 =
      .ok request.ticket
  serial : request.ticket.serial = w.client.session.correlator.nextSerial
  deadline : request.deadline =
    w.client.clock + w.client.session.settings.requestTimeout.toNat

theorem sends_of_issued (h : w.issued? event = some request) : w.Sends event request := by
  unfold issued? sent? at h
  split at h
  · next id? method params asks =>
    unfold Client.request at h
    split at h
    · cases h
    · next session ticket sent =>
      cases h
      have ok : (w.client.session.request id? method params w.client.clock).2 = .ok ticket := by
        rw [sent]
      obtain ⟨index, registered, -, done, into⟩ := Session.request_eq_ok ok
      obtain ⟨correlator, nextId, -, rfl, serial, rfl⟩ := Session.register_eq_ok done
      refine ⟨⟨id?, params, asks, ok⟩, serial, ?_⟩
      rw [sent] at into
      cases into
      rfl
  · cases h

/-! ## Requests that end -/

/-- The request that comes to an outcome at an event, and the outcome: whoever waits for it
takes what has become of the call, or gives it up. -/
def resolution? (w : World) (event : Event) : Option (PendingRequest × Outcome) :=
  match w.acting? event with
  | some job =>
    if job.isCancelled then none
    else
      match job.activity with
      | .await request _ stage =>
        (w.client.found? request stage).map fun outcome => (request, outcome)
      | _ => none
  | none => none

/-- The request that an event drops: the user drops it, or whoever waits for it gives up since
it was cancelled. -/
def dropped? (w : World) (event : Event) : Option PendingRequest :=
  match event with
  | .dropRequest request => if request ∈ w.held then some request else none
  | _ =>
    match w.acting? event with
    | some job => if job.isCancelled then job.activity.awaited? else none
    | none => none

/-- The request that an event ends, one way or the other. -/
def ended (w : World) (event : Event) : List PendingRequest :=
  ((w.resolution? event).map Prod.fst).toList ++ (w.dropped? event).toList

/-- What only takes calls out makes room. -/
theorem size_le_of_comes {c d : Client} (h : c.Comes .calls d) :
    d.session.correlator.size ≤ c.session.correlator.size := by
  obtain ⟨t, deals, same | ⟨-, -, dropped⟩⟩ := h
  · rw [same]
    cases deals with
    | rest => exact Nat.le_refl _
    | removed => exact List.length_filter_le ..
  · rw [dropped, Session.drop_eq]
    show t.correlator.drain.pending.length ≤ _
    rw [Correlator.pending_drain]
    exact Nat.zero_le _

theorem awaits_of_resolution {outcome : Outcome}
    (h : w.resolution? event = some (request, outcome)) : ∃ job receiver stage,
      w.acting? event = some job ∧ job.isCancelled = false ∧
      job.activity = .await request receiver stage ∧
      w.client.found? request stage = some outcome := by
  unfold resolution? at h
  split at h
  · next job acts =>
    split at h
    · cases h
    · next goesOn =>
      cases activity : job.activity with
      | await other receiver stage =>
        rw [activity] at h
        obtain ⟨found, found?, same⟩ := Option.map_eq_some_iff.mp h
        cases same
        exact ⟨job, receiver, stage, acts, Bool.eq_false_iff.mpr goesOn, activity, found?⟩
      | _ =>
        rw [activity] at h
        cases h
  · cases h

theorem cases_of_dropped (h : w.dropped? event = some request) :
    (event = .dropRequest request ∧ request ∈ w.held) ∨ ∃ job receiver stage,
      w.acting? event = some job ∧ job.isCancelled = true ∧
      job.activity = .await request receiver stage := by
  have turns (h : (match w.acting? event with
      | some job => if job.isCancelled then job.activity.awaited? else none
      | none => none) = some request) : ∃ job receiver stage, w.acting? event = some job ∧
        job.isCancelled = true ∧ job.activity = .await request receiver stage := by
    split at h
    · next job acts =>
      split at h
      · next cancelled =>
        cases activity : job.activity with
        | await other receiver stage =>
          rw [activity] at h
          cases h
          exact ⟨job, receiver, stage, acts, cancelled, activity⟩
        | _ =>
          rw [activity] at h
          cases h
      · cases h
    · cases h
  unfold dropped? at h
  cases event with
  | dropRequest other =>
    dsimp only at h
    split at h
    · next held =>
      cases h
      exact .inl ⟨rfl, held⟩
    · cases h
  | _ => exact .inr (turns h)

/-- There is always room for a step of whoever waits for a request. -/
theorem hasRoom_of_await (room : w.client.session.correlator.size ≤ mostCalls)
    {receiver : Receiver} {stage : AwaitStage} (acts : w.acting? event = some job)
    (activity : job.activity = .await request receiver stage) : w.hasRoom event = true := by
  obtain ⟨⟨heeds, rfl⟩, -⟩ := acting?_eq_some acts
  have comes := w.client.comes_step job
  have calls : w.client.dealing job = .calls := by
    unfold Client.dealing dealingAt
    rw [activity]
    split <;> rfl
  rw [calls] at comes
  refine decide_eq_true (Nat.le_trans ?_ room)
  rw [occur_of_acting, acts]
  exact size_le_of_comes comes

/-- There is always room for a request to end. -/
theorem hasRoom_of_ended (room : w.client.session.correlator.size ≤ mostCalls)
    (ends : request ∈ w.ended event) : w.hasRoom event = true := by
  unfold ended at ends
  rcases List.mem_append.mp ends with resolved | dropped
  · obtain ⟨⟨_, outcome⟩, resolution, rfl⟩ :=
      Option.map_eq_some_iff.mp (Option.mem_toList.mp resolved)
    obtain ⟨job, receiver, stage, acts, -, activity, -⟩ := awaits_of_resolution resolution
    exact hasRoom_of_await room acts activity
  · rcases cases_of_dropped (Option.mem_toList.mp dropped) with
      ⟨rfl, held⟩ | ⟨job, receiver, stage, acts, -, activity⟩
    · refine decide_eq_true (Nat.le_trans ?_ room)
      unfold occur
      dsimp only
      rw [if_pos held]
      exact size_le_of_comes (comes_of_deals comes_dropRequest)
    · exact hasRoom_of_await room acts activity

/-! ## Nothing else begins or ends -/

theorem mem_requests_of_job {receiver : Receiver} {stage : AwaitStage}
    (acts : w.acting? event = some job)
    (activity : job.activity = .await request receiver stage) : request ∈ w.requests := by
  have live := (acting?_eq_some acts).2.1
  rw [activity] at live
  exact mem_requests.mpr (.inr ⟨job.id, receiver, stage, live⟩)

theorem count_requests (w : World) (request : PendingRequest) : w.requests.count request =
    w.held.count request + (w.client.carried Activity.awaited?).count request :=
  List.count_append

/-- What the user holds, and what begins to wait without being sent, he held before. -/
theorem count_held_perform (room : w.hasRoom event = true) (request : PendingRequest) :
    (w.perform event).held.count request +
        ((w.begun event).filterMap Activity.awaited?).count request ≤
      (w.issued? event).toList.count request + w.held.count request := by
  rw [perform_of_room room]
  have same {w' : World} (held : w'.held = w.held)
      (idle : (w.begun event).filterMap Activity.awaited? = []) :
      w'.held.count request + ((w.begun event).filterMap Activity.awaited?).count request ≤
        (w.issued? event).toList.count request + w.held.count request := by
    rw [held, idle, List.count_nil]
    omega
  cases event with
  | turn id heeds =>
    have starts : (w.begun (.turn id heeds)).filterMap Activity.awaited? =
        (w.issued? (.turn id heeds)).toList := by
      unfold begun
      dsimp only
      cases w.issued? (.turn id heeds) <;> rfl
    show w.held.count request + _ ≤ _
    rw [starts]
    omega
  | request id? method params =>
    have idle : (w.begun (.request id? method params)).filterMap Activity.awaited? = [] := by
      unfold begun
      dsimp only
      cases w.issued? (.request id? method params) <;> rfl
    unfold occur
    dsimp only
    by_cases held : w.client.isHeld = true
    · rw [if_pos held, idle, issued?_of_request room held]
      split
      · next client other done =>
        rw [done]
        show (other :: w.held).count request + _ ≤ [other].count request + _
        rw [← List.singleton_append, List.count_append, List.count_nil]
        omega
      · next client e done =>
        rw [List.count_nil]
        show w.held.count request + 0 ≤ _
        omega
    · rw [if_neg held]
      exact same rfl idle
  | await other =>
    unfold occur begun
    dsimp only
    by_cases held : other ∈ w.held
    · rw [if_pos held, if_pos held]
      have split := (List.perm_cons_erase held).count_eq request
      rw [← List.singleton_append, List.count_append] at split
      show (w.held.erase other).count request + [other].count request ≤ _
      omega
    · rw [if_neg held, if_neg held]
      show w.held.count request + [].count request ≤ _
      rw [List.count_nil]
      omega
  | dropRequest other =>
    have fewer := (List.erase_sublist (a := other) (l := w.held)).count_le request
    unfold occur begun
    dsimp only
    rw [List.filterMap_nil, List.count_nil]
    split
    · show (w.held.erase other).count request + 0 ≤ _
      omega
    · omega
  | shutDown =>
    refine same ?_ ?_
    · unfold occur
      dsimp only
      split <;> rfl
    · unfold begun
      dsimp only
      split <;> rfl
  | dropHandle | abort | type | wait => exact same rfl rfl
  | notify | cancel | cancelRequest | connect | call | forward | route | serve =>
    refine same ?_ rfl
    unfold occur
    dsimp only
    split <;> rfl

/-- A request is alive no more often than it was, but for one that is sent. -/
theorem requests_perform (o : w.client.outline.Orderly) (event : Event)
    (request : PendingRequest) : (w.perform event).requests.count request ≤
      (w.issued? event).toList.count request + w.requests.count request := by
  cases room : w.hasRoom event with
  | false =>
    rw [perform_of_no_room room]
    omega
  | true =>
    have held := count_held_perform room request
    have carried := (carried_perform Activity.isBurden_awaited? o event).count_le request
    rw [List.count_append] at carried
    rw [count_requests, count_requests]
    omega

/-- The jobs that wait for other requests go on as they are when a job ends with its request. -/
theorem carried_of_ended {β : Type} {f : Activity → Option β} {receiver : Receiver}
    {stage : AwaitStage} (activity : job.activity = .await request receiver stage)
    (ends : job.isCancelled = true ∨ ∃ outcome, w.client.found? request stage = some outcome) :
    (w.client.step job).carried f = w.client.carriedByOthers f job.id := by
  unfold step
  by_cases cancelled : job.isCancelled = true
  · rw [if_pos cancelled]
    unfold stepCancelled
    rw [activity]
    dsimp only
    rw [carried_finish]
    exact carriedByOthers_cancelJob ..
  · rw [if_neg cancelled, activity]
    obtain ⟨outcome, found⟩ := ends.resolve_left cancelled
    exact carried_stepAwait found ..

/-- Whoever waits for a request and ends at his step takes it along, and it alone. -/
theorem ended_of_turn (o : w.client.outline.Orderly)
    (room : w.client.session.correlator.size ≤ mostCalls) {other : PendingRequest}
    {receiver : Receiver} {stage : AwaitStage} (acts : w.acting? event = some job)
    (activity : job.activity = .await other receiver stage)
    (last : job.isCancelled = true ∨ ∃ outcome, w.client.found? other stage = some outcome)
    (ends : w.ended event = [other]) (request : PendingRequest) :
    (w.ended event).count request + (w.perform event).requests.count request =
      w.requests.count request := by
  have hasRoom := hasRoom_of_ended room (ends ▸ List.mem_singleton_self other)
  have live := (acting?_eq_some acts).2.1
  rw [activity] at live
  have parts := (carried_perm (f := Activity.awaited?) o live).count_eq request
  have own : (Activity.await other receiver stage).awaited?.toList = [other] := rfl
  rw [own, List.count_append] at parts
  rw [ends, perform_of_acting hasRoom acts, count_requests, count_requests]
  dsimp only
  rw [carried_of_ended activity last]
  omega

/-- So does the user who drops a request that he holds. -/
theorem ended_of_dropRequest (room : w.client.session.correlator.size ≤ mostCalls)
    {other : PendingRequest} (held : other ∈ w.held)
    (ends : w.ended (.dropRequest other) = [other]) (request : PendingRequest) :
    (w.ended (.dropRequest other)).count request +
        (w.perform (.dropRequest other)).requests.count request = w.requests.count request := by
  have hasRoom := hasRoom_of_ended room (ends ▸ List.mem_singleton_self other)
  have parts := (List.perm_cons_erase held).count_eq request
  rw [← List.singleton_append, List.count_append] at parts
  rw [ends, perform_of_room hasRoom, count_requests, count_requests]
  unfold occur
  dsimp only
  rw [if_pos held]
  dsimp only
  rw [carried_dropRequest]
  omega

/-- **A request that ends is not alive any more.** -/
theorem ended_perform (o : w.client.outline.Orderly)
    (room : w.client.session.correlator.size ≤ mostCalls) (event : Event)
    (request : PendingRequest) :
    (w.ended event).count request + (w.perform event).requests.count request ≤
      (w.issued? event).toList.count request + w.requests.count request := by
  have all := requests_perform o event request
  cases resolution : w.resolution? event with
  | some found =>
    obtain ⟨other, outcome⟩ := found
    obtain ⟨job, receiver, stage, acts, goesOn, activity, found⟩ :=
      awaits_of_resolution resolution
    have ends : w.ended event = [other] := by
      obtain ⟨⟨heeds, rfl⟩, -⟩ := acting?_eq_some acts
      unfold ended dropped?
      rw [resolution, acts]
      dsimp only
      rw [goesOn]
      rfl
    have same := ended_of_turn o room acts activity (.inr ⟨outcome, found⟩) ends request
    omega
  | none =>
    cases drops : w.dropped? event with
    | none =>
      have nothing : w.ended event = [] := by
        unfold ended
        rw [resolution, drops]
        rfl
      rw [nothing, List.count_nil]
      omega
    | some other =>
      have ends : w.ended event = [other] := by
        unfold ended
        rw [resolution, drops]
        rfl
      rcases cases_of_dropped drops with
        ⟨rfl, held⟩ | ⟨job, receiver, stage, acts, cancelled, activity⟩
      · have same := ended_of_dropRequest room held ends request
        omega
      · have same := ended_of_turn o room acts activity (.inl cancelled) ends request
        omega

/-! ## Runs -/

/-- The requests that are sent in a run, in order. -/
def requestsIssued (settings : Settings) (medium : Medium) (events : List Event) :
    List PendingRequest :=
  gathered (fun w event => (w.issued? event).toList) { client := Client.create settings medium }
    events

/-- The requests that have ended in a run, in order. -/
def requestsEnded (settings : Settings) (medium : Medium) (events : List Event) :
    List PendingRequest :=
  gathered ended { client := Client.create settings medium } events

/-- The account of the requests that were sent. -/
structure Accounts (w : World) (issued ended : List PendingRequest) : Prop where
  given : ∀ request ∈ issued, request.ticket.serial < w.client.session.correlator.nextSerial
  apart : (issued.map fun request => request.ticket.serial).Nodup
  /-- A request is alive or has ended, and only once. -/
  once : ∀ request, ended.count request + w.requests.count request ≤ issued.count request
  timers : ∀ timer ∈ w.client.carried Activity.timer?, ∃ request ∈ issued,
    timer = (request.ticket, request.deadline)

variable {issued past : List PendingRequest} {l : Correlator.Ledger}

theorem nextSerial_perform (booked : w.Booked l)
    (room : w.client.session.correlator.size ≤ mostCalls) (event : Event) :
    w.client.session.correlator.nextSerial ≤
      (w.perform event).client.session.correlator.nextSerial := by
  obtain ⟨ops, -, booked'⟩ := booked.perform room event
  have grown := Correlator.Ledger.nextSerial_performAll booked.outline.consistent ops
  rwa [booked.outline.table, booked'.outline.table] at grown

/-- A request that is sent takes the next number. -/
theorem nextSerial_of_issued (o : w.client.outline.Orderly) (h : w.issued? event = some request) :
    (w.perform event).client.session.correlator.nextSerial = request.ticket.serial + 1 := by
  obtain ⟨⟨id?, params, asks, sent⟩, serial, -⟩ := sends_of_issued h
  rw [(issues o asks sent).2]
  obtain ⟨index, registered, -, done, into⟩ := Session.request_eq_ok sent
  obtain ⟨correlator, nextId, registers, rfl, -⟩ := Session.register_eq_ok done
  rw [into, serial]
  exact Correlator.nextSerial_register registers

theorem Accounts.perform (h : w.Accounts issued past) (booked : w.Booked l)
    (room : w.client.session.correlator.size ≤ mostCalls) (o : w.client.outline.Orderly)
    (event : Event) :
    (w.perform event).Accounts (issued ++ (w.issued? event).toList) (past ++ w.ended event) where
  given request member := by
    rcases List.mem_append.mp member with old | new
    · exact Nat.lt_of_lt_of_le (h.given request old) (nextSerial_perform booked room event)
    · rw [nextSerial_of_issued o (Option.mem_toList.mp new)]
      exact Nat.lt_succ_self _
  apart := by
    rw [List.map_append]
    refine List.nodup_append.mpr ⟨h.apart, ?_, ?_⟩
    · cases w.issued? event with
      | none => exact .nil
      | some request => exact List.nodup_singleton _
    · -- the numbers given out before are smaller
      rintro _ old _ new rfl
      obtain ⟨earlier, before, same⟩ := List.mem_map.mp old
      obtain ⟨request, now, same'⟩ := List.mem_map.mp new
      have less := h.given earlier before
      have next := (sends_of_issued (Option.mem_toList.mp now)).serial
      omega
  once request := by
    have one := ended_perform o room event request
    have all := h.once request
    rw [List.count_append, List.count_append]
    omega
  timers timer member := by
    rcases List.mem_append.mp
      ((carried_perform Activity.isBurden_timer? o event).subset member) with old | new
    · obtain ⟨request, sent, same⟩ := h.timers timer old
      exact ⟨request, List.mem_append_left _ sent, same⟩
    · have started : ∃ request ∈ (w.issued? event).toList,
          timer = (request.ticket, request.deadline) := by
        unfold begun at new
        cases event with
        | turn id heeds =>
          dsimp only at new
          cases sends : w.issued? (.turn id heeds) with
          | none =>
            rw [sends] at new
            cases new
          | some request =>
            rw [sends] at new
            exact ⟨request, List.mem_singleton_self _, List.mem_singleton.mp new⟩
        | request id? method params =>
          dsimp only at new
          cases sends : w.issued? (.request id? method params) with
          | none =>
            rw [sends] at new
            cases new
          | some request =>
            rw [sends] at new
            exact ⟨request, List.mem_singleton_self _, List.mem_singleton.mp new⟩
        | await | shutDown =>
          dsimp only at new
          split at new <;> cases new
        | _ => cases new
      obtain ⟨request, sent, same⟩ := started
      exact ⟨request, List.mem_append_right _ sent, same⟩

theorem accounts_run (settings : Settings) (medium : Medium) (events : List Event) :
    (run settings medium events).Accounts (requestsIssued settings medium events)
      (requestsEnded settings medium events) := by
  induction events using List.reverseRecOn with
  | nil => exact ⟨nofun, .nil, fun _ => Nat.le_refl _, nofun⟩
  | append_singleton events event ih =>
    obtain ⟨l, booked, -⟩ := exists_told settings medium events
    unfold requestsIssued requestsEnded
    rw [run_concat, gathered_concat, gathered_concat]
    exact ih.perform booked (size_le_mostCalls settings medium events)
      (Outline.reachable_run settings medium events).orderly event

theorem Accounts.mem_issued (h : w.Accounts issued past) (member : request ∈ past ++ w.requests) :
    request ∈ issued := by
  have once := h.once request
  have some := List.count_pos_iff.mpr member
  rw [List.count_append] at some
  exact List.count_pos_iff.mp (Nat.lt_of_lt_of_le some once)

/-- Requests of one number are one request. -/
theorem Accounts.eq_of_serial (h : w.Accounts issued past) {other : PendingRequest}
    (member : request ∈ issued) (member' : other ∈ issued)
    (same : request.ticket.serial = other.ticket.serial) : request = other :=
  List.inj_on_of_nodup_map h.apart member member' same

/-- **A request of a run ends once.** Whatever happens in whatever order, no two of the requests
that have come to an outcome or were dropped have the same number. -/
theorem nodup_ended (settings : Settings) (medium : Medium) (events : List Event) :
    ((requestsEnded settings medium events).map fun request => request.ticket.serial).Nodup := by
  have accounts := accounts_run settings medium events
  refine List.Nodup.map_on ?_ (List.nodup_iff_count_le_one.mpr fun request => ?_)
  · intro request member other member' same
    exact accounts.eq_of_serial (accounts.mem_issued (List.mem_append_left _ member))
      (accounts.mem_issued (List.mem_append_left _ member')) same
  · have once := accounts.once request
    have sent := List.nodup_iff_count_le_one.mp (List.Nodup.of_map _ accounts.apart) request
    omega

end World

end LspClient
