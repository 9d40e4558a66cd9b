import LspClient.Proofs.Client.Deadline

/-!
# Two ways to run out of time, one outcome

Once the call of a request was taken out of the table, by whatever it was, the outcome of that
removal is the one that is found, however late anybody looks (`World.waits_or_settled`), and
the call is not taken out again (`World.RemovedAt.unique`). So a request comes to one outcome,
once, and it is that of the event that removed its registration; the timer and whoever waits
for the request at its deadline do not differ in that (`World.times_out_alike`).

Whoever waits looks at one step and gives up at a later one. If the registration is removed
in between, its outcome is lost to him, and the timeout is what he tells
(`World.times_out_though_cancelled`). Nothing else gets past the removal: who is about to give up
before it is so after it, and nobody joins him (`World.isLate_concat_iff`).
-/

namespace LspClient

open Client Correlator

/-! ## Who tells the outcome -/

/-- Whoever waits for a request tells what it has come to: as the result of his job, or on the
output. -/
def Receiver.Tells (receiver : Receiver) (id : JobId) (outcome : Outcome)
    (before after : Report) : Prop :=
  match receiver with
  | .printer echo => after.printed = before.printed ++ [CommandLine.replyJson echo outcome]
  | _ => after.finished = before.finished ++ [(id, .called outcome)]

namespace Client

variable {c d : Client} {id : JobId} {request : PendingRequest} {receiver : Receiver}
  {outcome : Outcome}

theorem tells_conclude (printed : d.report.printed = c.report.printed)
    (finished : d.report.finished = c.report.finished) :
    receiver.Tells id outcome c.report (d.conclude id request receiver outcome).report := by
  unfold conclude
  cases receiver with
  | printer echo =>
    dsimp only
    rw [report_finish]
    unfold Receiver.Tells
    dsimp only
    rw [← printed]
    rfl
  | caller | keeper =>
    dsimp only
    rw [report_finish]
    unfold Receiver.Tells
    dsimp only
    rw [← finished]
    rfl

/-- What is found is told. -/
theorem tells_stepAwait {stage : AwaitStage} (id : JobId) (receiver : Receiver)
    (found : c.found? request stage = some outcome) :
    receiver.Tells id outcome c.report (c.stepAwait id request receiver stage).report := by
  unfold found? at found
  unfold stepAwait
  cases stage with
  | looking =>
    dsimp only at found ⊢
    rw [found]
    exact tells_conclude rfl rfl
  | late =>
    cases found
    dsimp only
    split
    · exact tells_conclude rfl rfl
    · exact tells_conclude rfl rfl

end Client

namespace World

variable {w : World} {event : Event} {request : PendingRequest} {job : Job}
  {settings : Settings} {medium : Medium} {events : List Event} {outcome : Outcome}
  {issued past : List PendingRequest}

/-! ## Until its end -/

/-- A request is not alive any more once it has ended. -/
theorem Accounts.not_mem_requests (h : w.Accounts issued past) (member : request ∈ past) :
    request ∉ w.requests := by
  intro alive
  have once := h.once request
  have sent := List.nodup_iff_count_le_one.mp (List.Nodup.of_map _ h.apart) request
  have ends := List.count_pos_iff.mpr member
  have lives := List.count_pos_iff.mpr alive
  omega

/-- Whose call waits is alive. -/
theorem mem_requests_of_waits (sent : request ∈ requestsIssued settings medium events)
    (waits : (run settings medium events).Waits request) :
    request ∈ (run settings medium events).requests := by
  obtain ⟨call, member, -, serial⟩ := waits
  obtain ⟨owner, alive, -, same⟩ := exists_owns settings medium events call member
  have accounts := accounts_run settings medium events
  obtain rfl := accounts.eq_of_serial
    (accounts.mem_issued (List.mem_append_right _ alive)) sent (same.trans serial)
  exact alive

/-- A request that is sent has its call registered. -/
theorem waits_of_issued (o : w.client.outline.Orderly) (h : w.issued? event = some request) :
    (w.perform event).Waits request := by
  obtain ⟨⟨id?, params, asks, sent⟩, serial, -⟩ := sends_of_issued h
  obtain ⟨index, registered, -, done, into⟩ := Session.request_eq_ok sent
  obtain ⟨correlator, nextId, registers, rfl, -⟩ := Session.register_eq_ok done
  refine ⟨⟨request.ticket.id, w.client.session.correlator.nextSerial, request.ticket.method,
    w.client.clock⟩, ?_, rfl, serial.symm⟩
  rw [(issues o asks sent).2, into]
  exact (Correlator.mem_register registers).mpr (.inr rfl)

/-- At this event, after the ones before, the call of a request is taken out of the table. -/
structure RemovedAt (settings : Settings) (medium : Medium) (before : List Event) (event : Event)
    (request : PendingRequest) (outcome : Outcome) : Prop where
  waited : (run settings medium before).Waits request
  gone : ¬ (run settings medium (before ++ [event])).Waits request
  removes : (run settings medium before).Removes event request outcome

/-- A request that is alive after an event was so before, or the event has sent it. -/
theorem mem_requests_of_perform (o : w.client.outline.Orderly)
    (alive : request ∈ (w.perform event).requests) :
    w.issued? event = some request ∨ request ∈ w.requests := by
  have more := requests_perform o event request
  have lives := List.count_pos_iff.mpr alive
  by_cases sent : request ∈ (w.issued? event).toList
  · exact .inl (Option.mem_toList.mp sent)
  · rw [List.count_eq_zero.mpr sent] at more
    exact .inr (List.count_pos_iff.mp (by omega))

/-! ## Who is about to give up -/

/-- Whether somebody has looked for the outcome of a request at its deadline, has seen nothing and
is about to give the request up. -/
def IsLate (w : World) (request : PendingRequest) : Prop :=
  ∃ job ∈ w.client.jobs, job.activity.givesUp? = some request

instance (w : World) (request : PendingRequest) : Decidable (w.IsLate request) :=
  inferInstanceAs (Decidable (∃ job ∈ w.client.jobs, _))

theorem isLate_of_live {id : JobId} {receiver : Receiver}
    (live : (id, .await request receiver .late) ∈ w.client.outline.jobs) : w.IsLate request := by
  obtain ⟨job, member, -, activity⟩ := exists_job live
  exact ⟨job, member, by rw [activity]; rfl⟩

theorem exists_late (late : w.IsLate request) :
    ∃ id receiver, (id, .await request receiver .late) ∈ w.client.outline.jobs := by
  obtain ⟨job, member, gives⟩ := late
  have live := mem_outline member
  cases activity : job.activity with
  | await other receiver stage =>
    rw [activity] at gives live
    cases stage with
    | looking => cases gives
    | late =>
      cases gives
      exact ⟨job.id, receiver, live⟩
  | _ =>
    rw [activity] at gives
    cases gives

/-- Who acts and waits for a request that goes on to be alive has seen nothing. -/
theorem found?_of_not_ended {receiver : Receiver} {stage : AwaitStage}
    (acts : w.acting? event = some job) (activity : job.activity = .await request receiver stage)
    (alive : request ∉ w.ended event) :
    job.isCancelled = false ∧ w.client.found? request stage = none := by
  have goesOn : job.isCancelled = false := by
    by_contra cancelled
    have drops := dropped?_of_cancelled acts ((Bool.not_eq_false _).mp cancelled) activity
    exact alive (List.mem_append_right _ (Option.mem_toList.mpr drops))
  refine ⟨goesOn, ?_⟩
  cases found : w.client.found? request stage with
  | none => rfl
  | some outcome =>
    refine absurd (List.mem_append_left _ (Option.mem_toList.mpr ?_)) alive
    rw [resolution?_of_await acts goesOn activity, found]
    rfl

/-- Who is about to give a request up does so at his next step, and nothing keeps him from it. -/
theorem isLate_perform (o : w.client.outline.Orderly)
    (room : w.client.session.correlator.size ≤ mostCalls) (late : w.IsLate request)
    (alive : request ∉ w.ended event) : (w.perform event).IsLate request := by
  obtain ⟨id, receiver, live⟩ := exists_late late
  by_cases own : event.isTurn id = true
  · -- his own step would end the request
    obtain ⟨heeds, rfl⟩ := exists_turn_of_isTurn own
    cases acts : w.acting? (.turn id heeds) with
    | none =>
      rw [perform_of_idle acts]
      exact late
    | some job =>
      obtain ⟨⟨_, same⟩, live', -, -⟩ := acting?_eq_some acts
      cases same
      have found := (found?_of_not_ended acts (o.unique live' live) alive).2
      cases found
  · exact isLate_of_live ((happens_perform room event).mem_of_ne live (Bool.eq_false_iff.mpr own))

/-- Once there is an outcome, nobody who looks comes to give the request up. -/
theorem isLate_of_perform (o : w.client.outline.Orderly)
    (alive : request ∉ w.ended event) (late : (w.perform event).IsLate request)
    (seen : (w.perform event).client.session.outcome? request.ticket ≠ none) :
    w.IsLate request := by
  obtain ⟨job, member, gives⟩ := late
  rcases (touches_perform o event).givesUp_cases member gives with before | ⟨receiver, own⟩
  · exact before
  · obtain ⟨looker, acts, same⟩ := Option.map_eq_some_iff.mp own
    obtain ⟨-, activity⟩ := Prod.mk.inj same
    obtain ⟨goesOn, unseen⟩ := found?_of_not_ended acts activity alive
    -- he has seen nothing, and leaves it so
    refine absurd ?_ seen
    cases room : w.hasRoom event with
    | false =>
      rw [perform_of_no_room room]
      exact unseen
    | true =>
      rw [client_perform_of_await room acts goesOn activity, (stepAwait_of_nothing unseen _ _).2]
      split <;> exact unseen

/-! ## Until its end, the outcome of the removal is there -/

/-- The call of a request was taken out of the table, and the outcome that this means is there for
whoever looks. If somebody is about to give the request up, he was so when that happened. -/
def SettledIn (settings : Settings) (medium : Medium) (events : List Event)
    (request : PendingRequest) (outcome : Outcome) : Prop :=
  ∃ before event after, events = before ++ event :: after ∧
    RemovedAt settings medium before event request outcome ∧
    ((run settings medium before).IsLate request ↔ (run settings medium events).IsLate request) ∧
    (run settings medium events).client.session.outcome? request.ticket = some outcome

/-- A request that is alive after an event has not ended at it. -/
theorem not_mem_ended (alive : request ∈ (run settings medium (events ++ [event])).requests) :
    request ∉ (run settings medium events).ended event := by
  intro ends
  refine (accounts_run settings medium (events ++ [event])).not_mem_requests ?_ alive
  unfold requestsEnded
  rw [gathered_concat]
  exact List.mem_append_right _ ends

/-- As long as a request is alive whose outcome is there, nobody begins or ceases to be about to
give it up. -/
theorem isLate_concat_iff (alive : request ∈ (run settings medium (events ++ [event])).requests)
    (seen : (run settings medium (events ++ [event])).client.session.outcome? request.ticket =
      some outcome) :
    (run settings medium events).IsLate request ↔
      (run settings medium (events ++ [event])).IsLate request := by
  have reached := Outline.reachable_run settings medium events
  have goesOn := not_mem_ended alive
  rw [run_concat] at seen ⊢
  refine ⟨fun late => ?_, fun late => ?_⟩
  · exact isLate_perform reached.orderly (size_le_mostCalls settings medium events) late goesOn
  · exact isLate_of_perform reached.orderly goesOn late (by rw [seen]; exact nofun)

/-- While a call waits somebody holds the session. -/
theorem not_isDropped_of_waits (waits : (run settings medium events).Waits request) :
    (run settings medium events).client.session.isDropped = false := by
  by_contra dropped
  obtain ⟨call, member, -⟩ := waits
  rw [pending_of_isDropped settings medium events ((Bool.not_eq_false _).mp dropped)] at member
  cases member

/-- What was settled stays so as long as the request is alive. -/
theorem SettledIn.concat (h : SettledIn settings medium events request outcome)
    (sent : request ∈ requestsIssued settings medium events)
    (alive : request ∈ (run settings medium (events ++ [event])).requests) :
    SettledIn settings medium (events ++ [event]) request outcome := by
  obtain ⟨before, event', after, rfl, removed, late, seen⟩ := h
  obtain ⟨l, booked, -⟩ := exists_told settings medium (before ++ event' :: after)
  have given := (accounts_run settings medium (before ++ event' :: after)).given request sent
  -- nothing that a registration has come to is undone
  have still := booked.outcome?_performAll (size_le_mostCalls settings medium _) given seen [event]
  rw [← run_append] at still
  exact ⟨before, event', after ++ [event], by simp, removed,
    late.trans (isLate_concat_iff alive still), still⟩

/-- An event that removes a call whose outcome is there afterwards has settled the request. -/
theorem settledIn_of_removes (waits : (run settings medium events).Waits request)
    (removes : (run settings medium events).Removes event request outcome)
    (alive : request ∈ (run settings medium (events ++ [event])).requests)
    (seen : (run settings medium (events ++ [event])).client.session.outcome? request.ticket =
      some outcome) : SettledIn settings medium (events ++ [event]) request outcome := by
  have gone : ¬ (run settings medium (events ++ [event])).Waits request := fun waits => by
    have unseen := outcome?_of_waits (wellFormed_run settings medium (events ++ [event])) waits
    rw [seen] at unseen
    cases unseen
  exact ⟨events, event, [], rfl, ⟨waits, gone, removes⟩, isLate_concat_iff alive seen, seen⟩

/-- **Every request that is alive is accounted for.** Its call waits, or one event has taken it
out, and the outcome that this means is there for whoever looks. -/
theorem waits_or_settled (settings : Settings) (medium : Medium) (events : List Event) :
    ∀ request ∈ (run settings medium events).requests,
      (run settings medium events).Waits request ∨
        ∃ outcome, SettledIn settings medium events request outcome := by
  -- on the run from its end: a call that waits is settled by the last event or goes on waiting,
  -- and what was settled before stays so
  induction events using List.reverseRecOn with
  | nil => exact fun request alive => absurd alive List.not_mem_nil
  | append_singleton events event ih =>
    intro request alive
    have reached := Outline.reachable_run settings medium events
    have accounts := accounts_run settings medium events
    have goesOn := not_mem_ended alive
    have old := alive
    rw [run_concat] at old
    rcases mem_requests_of_perform reached.orderly old with sent | old
    · left
      rw [run_concat]
      exact waits_of_issued reached.orderly sent
    · have sent := accounts.mem_issued (List.mem_append_right _ old)
      rcases ih request old with waits | ⟨outcome, settled⟩
      · rcases settles_perform reached (isPatient_run settings medium events)
            (size_le_mostCalls settings medium events) (isTended_run settings medium events)
            (not_isDropped_of_waits waits) accounts sent waits event with
          waits' | drops | ⟨outcome, removes, seen | resolved⟩
        · left
          rw [run_concat]
          exact waits'
        · exact absurd (List.mem_append_right _ (Option.mem_toList.mpr drops)) goesOn
        · rw [← run_concat] at seen
          exact .inr ⟨outcome, settledIn_of_removes waits removes alive seen⟩
        · refine absurd (List.mem_append_left _ (Option.mem_toList.mpr ?_)) goesOn
          rw [resolved]
          rfl
      · exact .inr ⟨outcome, settled.concat sent alive⟩

/-! ## What a request comes to -/

theorem timeout_run (settings : Settings) (medium : Medium) (events : List Event)
    (request : PendingRequest) : (run settings medium events).timeout request =
      .error (.timeout request.ticket.method settings.requestTimeout.toNat) := by
  unfold timeout
  rw [show (run settings medium events).client.session.settings = settings from
    (Outline.reachable_run settings medium events).settings_eq]

/-- The outcome of a request is the one that the removal of its call has meant, unless whoever
waits for it had looked before that, at the deadline: then it is the timeout. -/
def DecidedIn (settings : Settings) (medium : Medium) (events : List Event)
    (request : PendingRequest) (outcome : Outcome) : Prop :=
  ∃ before event after removal, events = before ++ event :: after ∧
    RemovedAt settings medium before event request removal ∧
    outcome = if (run settings medium before).IsLate request then
      (run settings medium before).timeout request else removal

theorem DecidedIn.append (h : DecidedIn settings medium events request outcome)
    (more : List Event) : DecidedIn settings medium (events ++ more) request outcome := by
  obtain ⟨before, event, after, removal, rfl, decided⟩ := h
  exact ⟨before, event, after ++ more, removal, by simp, decided⟩

/-- A request is alive in one place. -/
theorem Accounts.count_requests_le (h : w.Accounts issued past) (request : PendingRequest) :
    w.requests.count request ≤ 1 := by
  have once := h.once request
  have sent := List.nodup_iff_count_le_one.mp (List.Nodup.of_map _ h.apart) request
  omega

/-- Whoever waits for a request is the only one. -/
theorem Accounts.eq_of_awaits (h : w.Accounts issued past) (o : w.client.outline.Orderly)
    {id id' : JobId} {receiver receiver' : Receiver} {stage stage' : AwaitStage}
    (live : (id, .await request receiver stage) ∈ w.client.outline.jobs)
    (live' : (id', .await request receiver' stage') ∈ w.client.outline.jobs) : id = id' := by
  by_contra other
  have parts := (carried_perm (f := Activity.awaited?) o live).count_eq request
  have again : request ∈ w.client.carriedByOthers Activity.awaited? id := by
    obtain ⟨job, member, rfl, activity⟩ := exists_job live'
    exact List.mem_filterMap.mpr ⟨job, List.mem_filter.mpr ⟨member, bne_iff_ne.mpr (Ne.symm other)⟩,
      by rw [activity]; rfl⟩
  have twice := List.count_pos_iff.mpr again
  have once := h.count_requests_le request
  have own : (Activity.await request receiver stage).awaited?.toList = [request] := rfl
  rw [count_requests, parts, own, List.count_append, List.count_singleton_self] at once
  omega

/-- Whose request comes to an outcome at an event, his call does not wait after it. -/
theorem not_waits_of_resolution
    (resolves : (run settings medium events).resolution? event = some (request, outcome)) :
    ¬ (run settings medium (events ++ [event])).Waits request := by
  have accounts := accounts_run settings medium (events ++ [event])
  have ended : request ∈ requestsEnded settings medium (events ++ [event]) := by
    unfold requestsEnded
    rw [gathered_concat]
    refine List.mem_append_right _ (List.mem_append_left _ (Option.mem_toList.mpr ?_))
    show ((run settings medium events).resolution? event).map _ = _
    rw [resolves]
    rfl
  exact fun waits => accounts.not_mem_requests ended
    (mem_requests_of_waits (accounts.mem_issued (List.mem_append_left _ ended)) waits)

/-- A request comes to what the removal of its call has meant, or to the timeout. -/
theorem decided_of_resolution
    (resolves : (run settings medium events).resolution? event = some (request, outcome)) :
    DecidedIn settings medium (events ++ [event]) request outcome := by
  obtain ⟨job, receiver, stage, acts, goesOn, activity, found⟩ := awaits_of_resolution resolves
  have live := (acting?_eq_some acts).2.1
  rw [activity] at live
  have o := (Outline.reachable_run settings medium events).orderly
  have patient := isPatient_run settings medium events
  rcases waits_or_settled settings medium events request (mem_requests_of_job acts activity) with
    waits | ⟨removal, before, event', after, rfl, removed, late, seen⟩
  · cases stage with
    | looking =>
      -- as long as the call waits there is nothing to see
      have unseen := outcome?_of_waits (wellFormed_run settings medium events) waits
      exact absurd (found.symm.trans unseen) nofun
    | late =>
      cases found
      exact ⟨events, event, [], _, rfl,
        ⟨waits, not_waits_of_resolution resolves,
          .gaveUp acts goesOn activity (deadline_of_late patient acts activity)⟩,
        (if_pos (isLate_of_live live)).symm⟩
  · refine ⟨before, event', after ++ [event], removal, by simp, removed, ?_⟩
    cases stage with
    | looking =>
      have early : ¬ (run settings medium before).IsLate request := fun was => by
        obtain ⟨id, receiver', live'⟩ := exists_late (late.mp was)
        obtain rfl := (accounts_run settings medium _).eq_of_awaits o live live'
        cases o.unique live live'
      rw [if_neg early]
      exact Option.some.inj (found.symm.trans seen)
    | late =>
      cases found
      rw [if_pos (late.mpr (isLate_of_live live)), timeout_run]
      exact timeout_run settings medium _ request

/-! ## One removal -/

/-- A call that was taken out does not wait again, also when its id is used again. -/
theorem RemovedAt.not_waits {before : List Event}
    (h : RemovedAt settings medium before event request outcome) (later : List Event) :
    ¬ (run settings medium (before ++ event :: later)).Waits request := by
  obtain ⟨call, member, id, serial⟩ := h.waited
  obtain ⟨l, booked, -⟩ := exists_told settings medium before
  have room := size_le_mostCalls settings medium before
  have known : l.ids[request.ticket.serial]? = some request.ticket.id := by
    rw [← id, ← serial]
    refine booked.outline.consistent.named call ?_
    rw [booked.outline.table]
    exact member
  obtain ⟨l', booked', keeps⟩ := booked.exists_performAll room [event]
  have gone := h.gone
  rw [run_concat] at gone
  have forgotten : ((run settings medium before).perform event).HasForgotten request := by
    intro other among same
    exact gone ⟨other, among, id_eq_of_serial booked' (keeps _ _ known) among same, same⟩
  have still := forgotten.performAll booked' (room_perform room event) (keeps _ _ known) later
  have split : before ++ event :: later = (before ++ [event]) ++ later := by simp
  rw [split, run_append, run_concat]
  rintro ⟨other, among, -, same⟩
  exact still other among same

/-- The call of a request is taken out at one event, and this means one outcome. -/
theorem RemovedAt.unique {before before' after after' : List Event} {event' : Event}
    {outcome' : Outcome} (h : RemovedAt settings medium before event request outcome)
    (h' : RemovedAt settings medium before' event' request outcome')
    (same : before ++ event :: after = before' ++ event' :: after') :
    before = before' ∧ outcome = outcome' := by
  -- the call would wait again for the second event
  have first {early late : List Event} {one other : Event} {a b : Outcome} {rest : List Event}
      (h : RemovedAt settings medium early one request a)
      (h' : RemovedAt settings medium (early ++ late) other request b)
      (next : one :: rest = late ++ other :: after' ∨ one :: rest = late ++ other :: after) :
      late = [] := by
    cases late with
    | nil => rfl
    | cons head later =>
      have head : one = head := by
        rcases next with next | next <;> exact (List.cons.inj next).1
      subst head
      exact absurd h'.waited (h.not_waits later)
  have one : before = before' := by
    rcases List.append_eq_append_iff.mp same with ⟨late, rfl, next⟩ | ⟨late, rfl, next⟩
    · obtain rfl := first h h' (.inl next)
      exact (List.append_nil _).symm
    · obtain rfl := first h' h (.inr next)
      exact List.append_nil _
  subst one
  obtain rfl := (List.cons.inj (List.append_cancel_left same)).1
  have reached := Outline.reachable_run settings medium before
  have room := size_le_mostCalls settings medium before
  have tended := isTended_run settings medium before
  exact ⟨rfl, (h.removes.eq_verdict reached room tended).trans
    (h'.removes.eq_verdict reached room tended).symm⟩

/-! ## What requests come to -/

/-- The requests that come to an outcome in a run, with their outcomes, in order. -/
def resolutions (settings : Settings) (medium : Medium) (events : List Event) :
    List (PendingRequest × Outcome) :=
  gathered (fun w event => (w.resolution? event).toList) { client := Client.create settings medium }
    events

theorem resolutions_concat (settings : Settings) (medium : Medium) (events : List Event)
    (event : Event) : resolutions settings medium (events ++ [event]) =
      resolutions settings medium events ++
        ((run settings medium events).resolution? event).toList :=
  gathered_concat ..

/-- What has come to an outcome has ended. -/
theorem resolutions_sublist (settings : Settings) (medium : Medium) (events : List Event) :
    ((resolutions settings medium events).map Prod.fst).Sublist
      (requestsEnded settings medium events) := by
  induction events using List.reverseRecOn with
  | nil => exact .slnil
  | append_singleton events event ih =>
    unfold requestsEnded at ih ⊢
    rw [resolutions_concat, gathered_concat, List.map_append]
    have new : (((run settings medium events).resolution? event).toList.map Prod.fst).Sublist
        ((run settings medium events).ended event) := by
      unfold ended
      cases (run settings medium events).resolution? event with
      | none => exact List.nil_sublist _
      | some found => exact List.sublist_append_left [found.1] _
    exact ih.append new

/-- What has come to an outcome was sent before. -/
theorem mem_issued_of_resolution
    (resolved : (request, outcome) ∈ resolutions settings medium events) :
    request ∈ requestsIssued settings medium events := by
  have ended : request ∈ requestsEnded settings medium events :=
    (resolutions_sublist settings medium events).subset (List.mem_map.mpr ⟨_, resolved, rfl⟩)
  exact (accounts_run settings medium events).mem_issued (List.mem_append_left _ ended)

/-- Every request that was sent was sent at an event. -/
theorem sends_of_mem_issued (sent : request ∈ requestsIssued settings medium events) :
    ∃ before event after, events = before ++ event :: after ∧
      (run settings medium before).Sends event request := by
  induction events using List.reverseRecOn with
  | nil => cases sent
  | append_singleton events event ih =>
    unfold requestsIssued at sent ih
    rw [gathered_concat] at sent
    rcases List.mem_append.mp sent with old | new
    · obtain ⟨before, event', after, rfl, sends⟩ := ih old
      exact ⟨before, event', after ++ [event], by simp, sends⟩
    · exact ⟨events, event, [], rfl, sends_of_issued (Option.mem_toList.mp new)⟩

/-- What has come to an outcome has come to the one of its removal, or to the timeout. -/
theorem decided_of_mem_resolutions
    (resolved : (request, outcome) ∈ resolutions settings medium events) :
    DecidedIn settings medium events request outcome := by
  induction events using List.reverseRecOn with
  | nil => cases resolved
  | append_singleton events event ih =>
    rw [resolutions_concat] at resolved
    rcases List.mem_append.mp resolved with old | new
    · exact (ih old).append [event]
    · exact decided_of_resolution (Option.mem_toList.mp new)

/-- Who looks for an outcome and sees none acts because the deadline has passed. -/
theorem deadline_of_looking {receiver : Receiver} (acts : w.acting? event = some job)
    (goesOn : job.isCancelled = false) (activity : job.activity = .await request receiver .looking)
    (unseen : w.client.session.outcome? request.ticket = none) :
    request.deadline ≤ w.client.clock := by
  obtain ⟨-, -, ready, -⟩ := acting?_eq_some acts
  unfold isReady at ready
  rw [goesOn, activity] at ready
  dsimp only at ready
  rw [unseen, Option.isSome_none, Bool.or_false, Bool.false_or] at ready
  exact of_decide_eq_true ready

/-- The call of a request that is alive waits as long as there is no outcome. -/
theorem waits_of_unseen (alive : request ∈ (run settings medium events).requests)
    (unseen : (run settings medium events).client.session.outcome? request.ticket = none) :
    (run settings medium events).Waits request := by
  rcases waits_or_settled settings medium events request alive with
    waits | ⟨outcome, _, _, _, -, -, -, seen⟩
  · exact waits
  · exact absurd (unseen.symm.trans seen) nofun

/-- What whoever waits for a request does at a step of his: he tells what he finds, or if he sees
nothing at the deadline he is about to give up. -/
theorem tells_perform {receiver : Receiver} {stage : AwaitStage}
    (acts : (run settings medium events).acting? event = some job)
    (goesOn : job.isCancelled = false) (activity : job.activity = .await request receiver stage) :
    (∃ outcome, (run settings medium events).resolution? event = some (request, outcome) ∧
        receiver.Tells job.id outcome (run settings medium events).client.report
          (run settings medium (events ++ [event])).client.report) ∨
      stage = .looking ∧ (run settings medium events).Waits request ∧
        request.deadline ≤ (run settings medium events).client.clock ∧
        (run settings medium (events ++ [event])).IsLate request := by
  have resolves := resolution?_of_await acts goesOn activity
  have room := hasRoom_of_await (size_le_mostCalls settings medium events) acts activity
  cases found : (run settings medium events).client.found? request stage with
  | some outcome =>
    rw [found] at resolves
    refine .inl ⟨outcome, resolves, ?_⟩
    rw [run_concat, client_perform_of_await room acts goesOn activity]
    exact Client.tells_stepAwait job.id receiver found
  | none =>
    obtain ⟨rfl, steps⟩ := stepAwait_of_nothing found job.id receiver
    have due := deadline_of_looking acts goesOn activity found
    refine .inr ⟨rfl, waits_of_unseen (mem_requests_of_job acts activity) found, due, ?_⟩
    have gives : (job.id, .await request receiver .late) ∈
        ((run settings medium events).perform event).client.outline.jobs := by
      rw [client_perform_of_await room acts goesOn activity, steps, if_neg (Nat.not_lt.mpr due),
        outline_become]
      exact Outline.mem_put.mpr (.inr ⟨rfl, _, (acting?_eq_some acts).2.1⟩)
    rw [run_concat]
    exact isLate_of_live gives

/-- What holds of every run, as far as requests come to outcomes. -/
structure TimesOutAlike (settings : Settings) (medium : Medium) (events : List Event) : Prop where
  /-- No request comes to an outcome twice, also when its id is used again. -/
  once : ((resolutions settings medium events).map fun (request, _) => request.ticket.serial).Nodup
  /-- It was sent at an event, which has set its deadline. -/
  sent : ∀ request outcome, (request, outcome) ∈ resolutions settings medium events →
    ∃ before event after, events = before ++ event :: after ∧
      (run settings medium before).Sends event request
  /-- It comes to what the event meant that took its call out of the table, unless whoever waits
  was already about to give it up: then it comes to the timeout. -/
  decided : ∀ request outcome, (request, outcome) ∈ resolutions settings medium events →
    DecidedIn settings medium events request outcome
  /-- This is one event, and it means one outcome. -/
  unique : ∀ request before event after outcome before' event' after' outcome',
    events = before ++ event :: after → events = before' ++ event' :: after' →
    RemovedAt settings medium before event request outcome →
    RemovedAt settings medium before' event' request outcome' →
    before = before' ∧ outcome = outcome'
  /-- If the time of a request has run out, the error names its method and the time that it
  had, whoever has noticed that. -/
  alike : ∀ request, (run settings medium events).timeout request =
    .error (.timeout request.ticket.method settings.requestTimeout.toNat)
  /-- Nobody is about to give a request up before its deadline. -/
  late : ∀ request, (run settings medium events).IsLate request →
    request.deadline ≤ (run settings medium events).client.clock
  /-- Whoever looks for the outcome of a request finds what the removal of its call has meant,
  however late he looks. If the call was not removed he finds nothing. -/
  looks : ∀ request ∈ (run settings medium events).requests,
    (run settings medium events).Waits request ∧
      (run settings medium events).client.session.outcome? request.ticket = none ∨
    ∃ outcome, SettledIn settings medium events request outcome
  /-- Whoever waits for a request and goes on finds its outcome and tells it, or sees at the
  deadline that there is none. -/
  tells : ∀ event job request receiver stage,
    (run settings medium events).acting? event = some job → job.isCancelled = false →
    job.activity = .await request receiver stage →
    (∃ outcome, (run settings medium events).resolution? event = some (request, outcome) ∧
        receiver.Tells job.id outcome (run settings medium events).client.report
          (run settings medium (events ++ [event])).client.report) ∨
      stage = .looking ∧ (run settings medium events).Waits request ∧
        request.deadline ≤ (run settings medium events).client.clock ∧
        (run settings medium (events ++ [event])).IsLate request

/-- **Both ways to run out of time are one, but for who was too late to see the outcome.** In every
run, in whatever order timers go on, the server answers, calls are cancelled, the session is
closed and ids are used again, each request comes to an outcome at most once. It is the one of
the event that has removed its registration: the same timeout if its timer has done that or
whoever waits for it, and what anything else has made of it, even if nobody looks before the
deadline. Only if the registration is removed after whoever waits has looked at the deadline, and
before he gives the request up, the timeout takes the place of that outcome. -/
theorem times_out_alike (settings : Settings) (medium : Medium) (events : List Event) :
    TimesOutAlike settings medium events where
  once := by
    have sub := (resolutions_sublist settings medium events).map fun request =>
      request.ticket.serial
    rw [List.map_map] at sub
    exact (nodup_ended settings medium events).sublist sub
  sent request outcome resolved := sends_of_mem_issued (mem_issued_of_resolution resolved)
  decided request outcome := decided_of_mem_resolutions
  unique request before event after outcome before' event' after' outcome' same same' removed
      removed' := removed.unique removed' (same.symm.trans same')
  alike := timeout_run settings medium events
  late request late := by
    obtain ⟨job, member, gives⟩ := late
    exact isPatient_run settings medium events job member request gives
  looks request alive := by
    rcases waits_or_settled settings medium events request alive with waits | settled
    · exact .inl ⟨waits, outcome?_of_waits (wellFormed_run settings medium events) waits⟩
    · exact .inr settled
  tells event job request receiver stage := tells_perform

/-- Whoever waits for a call sees nothing at its deadline. Before he gives it up the call is
cancelled, and yet it comes to the timeout. -/
theorem times_out_though_cancelled :
    let request : PendingRequest := ⟨⟨.number 1, 0, "m"⟩, 30000, 3⟩
    let looked : List Event :=
      firstConnection ++ [.request none "m" none, .await request, .wait 30000, .turn 4 false]
    let cancelled : List Event := looked ++ [.cancel (.number 1)]
    RemovedAt {} .messages looked (.cancel (.number 1)) request (.error .cancelled) ∧
      (run {} .messages cancelled).client.session.outcome? request.ticket =
        some (.error .cancelled) ∧
      resolutions {} .messages (cancelled ++ [.turn 4 false]) =
        [(request, .error (.timeout "m" 30000))] := by
  refine ⟨⟨?waited, ?gone, .cancelled ?held (.inl rfl)⟩, ?seen, ?told⟩
  case waited => decide +kernel
  case gone => decide +kernel
  case held => decide +kernel
  case seen => rfl
  case told => rfl

end World

end LspClient
