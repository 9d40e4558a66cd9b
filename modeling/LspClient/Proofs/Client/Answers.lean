import Mathlib.Data.List.Induction
import LspClient.Proofs.Client.Tickets

/-!
# A response reaches only its own caller

`AnsweredIn` says of a run that a response with this id and outcome was taken in while this
very registration was outstanding. By induction over the run that is the only way in which a
registration comes to an answer (`exists_told`); since nothing that a registration has come
to is ever undone, the first such response is the one that counts. What a job notes as the
result of a call is what its ticket had come to at the job's last turn (`result_cases`).
-/

namespace LspClient

open Correlator

theorem mapError_rpc_inj {a b : RpcOutcome}
    (h : (a.mapError .rpc : Outcome) = b.mapError .rpc) : a = b := by
  cases a <;> cases b <;> cases h <;> rfl

namespace Correlator

variable {c next : Correlator} {id : RequestId} {serial : Nat} {outcome : Outcome}
  {rpc : RpcOutcome} {l : Ledger}

/-- Whoever sees an answer sees what was delivered. -/
theorem outcome?_eq_answer_iff :
    c.outcome? serial = some (rpc.mapError .rpc) ↔
      c.delivery serial = .fulfilled (rpc.mapError .rpc) := by
  unfold outcome? Delivery.outcome?
  cases c.delivery serial with
  | waiting => simp
  | fulfilled outcome => simp
  | discarded =>
    constructor
    · intro same
      exact absurd ⟨rpc, Option.some.inj same⟩ not_isAnswer_closed
    · intro same
      cases same

theorem not_waiting_of_outcome? (h : c.outcome? serial = some outcome) :
    c.delivery serial ≠ .waiting := by
  intro waits
  unfold outcome? at h
  rw [waits] at h
  cases h

/-- What was never registered was not fulfilled. -/
theorem lt_nextSerial_of_fulfilled (h : c.delivery serial = .fulfilled outcome) :
    serial < c.nextSerial := by
  by_contra beyond
  unfold Correlator.delivery at h
  rw [List.getElem?_eq_none (Nat.le_of_not_lt beyond)] at h
  cases h

/-- One call, and no other, is answered: it leaves the table, and its registration comes to
this outcome. -/
structure Answers (c next : Correlator) (call : PendingCall) (outcome : Outcome) : Prop where
  waited : call ∈ c.pending
  unseen : c.outcome? call.serial = none
  entries : ∀ other, other ∈ next.pending ↔ other ∈ c.pending ∧ other ≠ call
  seen : next.outcome? call.serial = some outcome
  others : ∀ serial, serial ≠ call.serial → next.outcome? serial = c.outcome? serial

theorem WellFormed.answers (wf : c.WellFormed) (h : c.answer id rpc = .ok next) :
    ∃ call, call.id = id ∧ c.Answers next call (rpc.mapError .rpc) := by
  obtain ⟨call, member, own, rfl⟩ := answer_eq_ok h
  refine ⟨call, own, member, ?_, fun other => ?_, ?_, fun serial apart => ?_⟩
  · unfold outcome?
    rw [wf.waiting call member]
    rfl
  · rw [show ((c.erase call.id).deliver call _).pending = (c.erase call.id).pending from rfl,
      mem_pending_erase]
    constructor
    · intro kept
      refine ⟨kept.1, fun same => kept.2 ?_⟩
      rw [same]
    · intro kept
      exact ⟨kept.1, fun same => kept.2 (wf.eq_of_id kept.1 member same)⟩
  · exact outcome?_eq_answer_iff.mpr (delivery_deliver_self (wf.given call member) _)
  · unfold outcome?
    rw [delivery_deliver_of_ne apart]
    rfl

theorem answer_eq_error {e : UnmatchedResponse} (h : c.answer id rpc = .error e) :
    ∀ call ∈ c.pending, call.id ≠ id := by
  intro call member own
  have found : c.contains id = true := contains_iff.mpr ⟨call, member, own⟩
  obtain ⟨other, hother⟩ := Option.isSome_iff_exists.mp found
  unfold answer settle? forget? at h
  rw [hother] at h
  cases h

/-- What has been delivered belongs to a registration. -/
theorem Ledger.Consistent.exists_id (h : l.Consistent)
    (delivered : l.table.delivery serial = .fulfilled outcome) :
    ∃ id, l.ids[serial]? = some id := by
  have made : serial < l.ids.length := by
    rw [h.counted]
    exact lt_nextSerial_of_fulfilled delivered
  exact ⟨_, List.getElem?_eq_getElem made⟩

end Correlator

/-! ## Results -/

namespace Outline

variable {k k' : Outline} {who? : Option JobId} {id i : JobId} {a : Activity}
  {frame? : Option Bytes} {outcome : Outcome}

/-- Deeds note no answer. -/
theorem Deeds.mem_results (h : k.Deeds who? k') (answer : IsAnswer outcome)
    (noted : (id, .called outcome) ∈ k'.results) : (id, .called outcome) ∈ k.results := by
  induction h with
  | refl => exact noted
  | tail _ last ih =>
    cases last with
    | note _ other =>
      rcases List.mem_append.mp noted with old | new
      · exact ih old
      · cases List.mem_singleton.mp new
        exact absurd answer (other outcome rfl)
    | session | issue | start | connect | move | leave | serve | letGo | drop => exact ih noted

/-- Shifts note no outcome of a call. -/
theorem Shift.called_mem_results (h : k.Shift i a k')
    (noted : (id, .called outcome) ∈ k'.results) : (id, .called outcome) ∈ k.results := by
  have same : k.openGate.results = k.results := by
    unfold openGate
    split <;> rfl
  cases h with
  | report =>
    rcases List.mem_append.mp noted with old | new
    · rw [← same]
      exact old
    · cases List.mem_singleton.mp new
  | leave | giveUpGate =>
    rw [← same]
    exact noted
  | move | desert | take | degrade | recover | close | drain | drainLoss | enter | queue
  | «open» | accept | install | giveUpPlace => exact noted

theorem Does.result_cases (h : k.Does i a frame? k') (answer : IsAnswer outcome)
    (noted : (id, .called outcome) ∈ k'.results) :
    (id, .called outcome) ∈ k.results ∨ id = i ∧ ∃ request receiver,
      a = .await request receiver .looking ∧ k.session.outcome? request.ticket = some outcome := by
  cases h with
  | deeds deeds => exact .inl (deeds.mem_results answer noted)
  | shift shift deeds => exact .inl (shift.called_mem_results (deeds.mem_results answer noted))
  | @resolve request receiver _ _ found deeds =>
    rcases List.mem_append.mp (deeds.mem_results answer noted) with old | new
    · exact .inl old
    · cases List.mem_singleton.mp new
      exact .inr ⟨rfl, request, receiver, rfl, found⟩
  | intake frame =>
    unfold Outline.intake at noted
    split at noted <;> exact .inl noted

end Outline

namespace World

/-- An answer that a job has noted was there before, or it is what the job has waited for at
its turn. -/
theorem Happens.result_cases {w : World} {event : Event} {k : Outline} (h : w.Happens event k)
    {id : JobId} {outcome : Outcome} (answer : IsAnswer outcome)
    (noted : (id, .called outcome) ∈ k.results) :
    (id, .called outcome) ∈ w.client.outline.results ∨ ∃ heeds request receiver,
      event = .turn id heeds ∧ (id, .await request receiver .looking) ∈ w.client.outline.jobs ∧
        w.client.session.outcome? request.ticket = some outcome := by
  cases h with
  | @turn i heeds a _ live does =>
    rcases does.result_cases answer noted with old | ⟨rfl, request, receiver, rfl, found⟩
    · exact .inl old
    · exact .inr ⟨heeds, request, receiver, rfl, live, found⟩
  | await => exact .inl noted
  | other _ deeds => exact .inl (deeds.mem_results answer noted)

/-! ## What a registration has come to -/

variable {w : World} {l : Ledger} {ticket : Ticket} {outcome : Outcome}

/-- It never comes to anything else. -/
theorem Booked.outcome?_performAll (h : w.Booked l)
    (room : w.client.session.correlator.size ≤ mostCalls)
    (made : ticket.serial < w.client.session.correlator.nextSerial)
    (seen : w.client.session.outcome? ticket = some outcome) (events : List Event) :
    (w.performAll events).client.session.outcome? ticket = some outcome := by
  induction events generalizing w l with
  | nil => exact seen
  | cons event rest ih =>
    obtain ⟨ops, -, booked⟩ := h.perform room event
    have table := h.outline.table
    have made' : ticket.serial < l.table.nextSerial := by
      rw [table]
      exact made
    have settled : l.table.delivery ticket.serial ≠ .waiting := by
      rw [table]
      exact not_waiting_of_outcome? seen
    have same := Ledger.delivery_performAll h.outline.consistent made' settled ops
    have grown := Ledger.nextSerial_performAll h.outline.consistent ops
    rw [booked.outline.table, table] at same grown
    refine ih booked (room_perform room event) (Nat.lt_of_lt_of_le made grown) ?_
    rw [← seen]
    exact congrArg Delivery.outcome? same

variable {settings : Settings} {medium : Medium} {events : List Event}

/-- In the run a response with this id and outcome was taken in while the registration with
this number, under this id, was outstanding. -/
def AnsweredIn (settings : Settings) (medium : Medium) (events : List Event) (id : RequestId)
    (serial : Nat) (rpc : RpcOutcome) : Prop :=
  ∃ before event after frame, events = before ++ event :: after ∧
    (run settings medium before).incoming? event = some frame ∧
    Envelope.decode frame = .ok (.response ⟨some id, rpc⟩) ∧
    ∃ call ∈ (run settings medium before).client.session.correlator.pending,
      call.id = id ∧ call.serial = serial

theorem AnsweredIn.append {id : RequestId} {serial : Nat} {rpc : RpcOutcome}
    (h : AnsweredIn settings medium events id serial rpc) (more : List Event) :
    AnsweredIn settings medium (events ++ more) id serial rpc := by
  obtain ⟨before, event, after, frame, split, rest⟩ := h
  refine ⟨before, event, after ++ more, frame, ?_, rest⟩
  rw [split, List.append_assoc, List.cons_append]

/-- The ledger of a run, in which every answer comes from a response that was taken in. -/
theorem exists_told (settings : Settings) (medium : Medium) (events : List Event) :
    ∃ l, (run settings medium events).Booked l ∧
      ∀ serial id rpc, l.ids[serial]? = some id →
        l.table.delivery serial = .fulfilled (rpc.mapError .rpc) →
        AnsweredIn settings medium events id serial rpc := by
  induction events using List.reverseRecOn with
  | nil =>
    refine ⟨{}, booked_create settings medium, fun serial id rpc made => ?_⟩
    rw [List.getElem?_nil] at made
    cases made
  | append_singleton events event ih =>
    obtain ⟨l, booked, told⟩ := ih
    have consistent := booked.outline.consistent
    obtain ⟨ops, brings, booked'⟩ :=
      booked.perform (size_le_mostCalls settings medium events) event
    -- what was delivered before came from an earlier response
    have earlier {serial : Nat} {id : RequestId} {rpc : RpcOutcome}
        (made : (l.performAll ops).ids[serial]? = some id)
        (before : l.table.delivery serial = .fulfilled (rpc.mapError .rpc)) :
        AnsweredIn settings medium (events ++ [event]) id serial rpc := by
      obtain ⟨own, made'⟩ := consistent.exists_id before
      rw [Ledger.ids_performAll consistent ops made'] at made
      cases made
      exact (told serial id rpc made' before).append [event]
    rw [run_append]
    refine ⟨l.performAll ops, booked', fun serial id rpc made delivered => ?_⟩
    cases brings with
    | nothing silent =>
      exact earlier made (Ledger.delivered_performAll consistent silent ⟨rpc, rfl⟩ delivered)
    | @answer frame target rpc' taken decoded =>
      rcases Ledger.delivered_perform consistent delivered with before | ⟨call, member, own, fate⟩
      · exact earlier made before
      · -- the response that is taken in now is the one
        rw [answering_fate?] at fate
        split at fate
        · next same =>
          obtain rfl : rpc' = rpc :=
            mapError_rpc_inj (Status.fulfilled.inj (Option.some.inj fate))
          have named := Ledger.ids_performAll consistent [answering target rpc']
            (consistent.named call member)
          rw [own, made] at named
          cases named
          rw [same] at decoded
          rw [booked.outline.table] at member
          exact ⟨events, event, [], frame, rfl, taken, decoded, call, member, rfl, own⟩
        · cases fate

/-! ## One frame -/

/-- A response with an id answers the call that waits under it, and no other; if none does,
it changes nothing. -/
theorem answer_cases (wf : w.client.session.correlator.WellFormed)
    (room : w.client.session.correlator.size ≤ mostCalls) {event : Event} {frame : Bytes}
    {id : RequestId} {rpc : RpcOutcome} (taken : w.incoming? event = some frame)
    (decoded : Envelope.decode frame = .ok (.response ⟨some id, rpc⟩)) :
    (∃ call next, call.id = id ∧
      w.client.session.correlator.Answers next call (rpc.mapError .rpc) ∧
      (w.perform event).client.outline =
        w.client.outline.withSession { w.client.session with correlator := next }) ∨
    (∀ call ∈ w.client.session.correlator.pending, call.id ≠ id) ∧
      (w.perform event).client.outline = w.client.outline := by
  obtain ⟨into, -⟩ := (happens_perform room event).of_incoming taken
  -- a response is no request, so all that matters is what becomes of the session
  have outline {s : Session}
      (received : (w.client.session.receive frame).2.request? = none ∧
        (w.client.session.receive frame).1 = s) :
      (w.perform event).client.outline = w.client.outline.withSession s := by
    rw [into, ← received.2]
    exact Outline.intake_of_none received.1
  unfold Session.receive at outline
  rw [decoded] at outline
  dsimp only at outline
  cases answered : w.client.session.correlator.answer id rpc with
  | ok next =>
    rw [answered] at outline
    obtain ⟨call, own, answers⟩ := wf.answers answered
    exact .inl ⟨call, next, own, answers, outline ⟨rfl, rfl⟩⟩
  | error e =>
    rw [answered] at outline
    exact .inr ⟨answer_eq_error answered, outline ⟨rfl, rfl⟩⟩

/-! ## Callers -/

/-- What holds of every state that a run can come to, as far as calls are answered. -/
structure AnswersCallers (settings : Settings) (medium : Medium) (events : List Event)
    (w : World) : Prop where
  /-- Whoever holds a ticket sees an answer exactly if a response under the ticket's id has
  brought that answer while the ticket's own registration was outstanding. So all such
  responses, of which there can be only one, agree. -/
  sees : ∀ ticket, w.Holds ticket → ∀ rpc,
    w.client.session.outcome? ticket = some (rpc.mapError .rpc) ↔
      AnsweredIn settings medium events ticket.id ticket.serial rpc
  /-- A job that has ended with an answer waited for a request at its last turn, and a response
  had brought that answer to this request's own registration. -/
  resolves : ∀ id rpc, (id, .called (rpc.mapError .rpc)) ∈ w.client.report.finished →
    ∃ before heeds after request receiver, events = before ++ .turn id heeds :: after ∧
      (∃ job ∈ (run settings medium before).client.jobs,
        job.id = id ∧ job.activity = .await request receiver .looking) ∧
      AnsweredIn settings medium before request.ticket.id request.ticket.serial rpc
  /-- A response answers the call that waits under its id and removes this one entry; nothing
  else changes. If no call waits under its id, nothing changes at all. -/
  answers : ∀ event frame id rpc, w.incoming? event = some frame →
    Envelope.decode frame = .ok (.response ⟨some id, rpc⟩) →
    (∃ call next, call.id = id ∧
      w.client.session.correlator.Answers next call (rpc.mapError .rpc) ∧
      (w.perform event).client.outline =
        w.client.outline.withSession { w.client.session with correlator := next }) ∨
    (∀ call ∈ w.client.session.correlator.pending, call.id ≠ id) ∧
      (w.perform event).client.outline = w.client.outline
  /-- Whatever a ticket has come to, it never comes to anything else. -/
  stays : ∀ ticket, w.Holds ticket → ∀ outcome,
    w.client.session.outcome? ticket = some outcome → ∀ more,
    (w.performAll more).client.session.outcome? ticket = some outcome

theorem wellFormed_run (settings : Settings) (medium : Medium) (events : List Event) :
    (run settings medium events).client.session.correlator.WellFormed := by
  obtain ⟨l, booked, -⟩ := exists_told settings medium events
  have wf := booked.outline.consistent.table
  rw [booked.outline.table] at wf
  exact wf

/-- The answer in a response is what the registration has come to from then on. -/
theorem AnsweredIn.outcome? {rpc : RpcOutcome}
    (h : AnsweredIn settings medium events ticket.id ticket.serial rpc) :
    (run settings medium events).client.session.outcome? ticket = some (rpc.mapError .rpc) := by
  obtain ⟨before, event, after, frame, rfl, taken, decoded, call, member, own, serial⟩ := h
  have wf := wellFormed_run settings medium before
  have room := size_le_mostCalls settings medium before
  have split : before ++ event :: after = (before ++ [event]) ++ after := by simp
  obtain ⟨l, booked, -⟩ := exists_told settings medium (before ++ [event])
  have answered : (run settings medium (before ++ [event])).client.session.outcome? ticket =
      some (rpc.mapError .rpc) := by
    rw [run_append]
    rcases answer_cases wf room taken decoded with ⟨other, next, same, answers, outline⟩ |
        ⟨nobody, -⟩
    · -- there is only one call under the id
      have one : other = call := wf.eq_of_id answers.waited member (same.trans own.symm)
      have table := congrArg (fun k => k.session.correlator.outcome? ticket.serial) outline
      refine table.trans ?_
      rw [← serial, ← one]
      exact answers.seen
    · exact absurd own (nobody call member)
  have made := lt_nextSerial_of_fulfilled (outcome?_eq_answer_iff.mp answered)
  rw [split, run_append]
  exact booked.outcome?_performAll (size_le_mostCalls ..) made answered after

/-- **A response reaches only its own caller.** In every run, whatever frames come in and
whichever calls are cancelled, dropped or out of time, `AnswersCallers` describes every state
on the way. -/
theorem answers_callers (settings : Settings) (medium : Medium) (events : List Event) :
    AnswersCallers settings medium events (run settings medium events) where
  sees ticket holds rpc := by
    obtain ⟨l, booked, told⟩ := exists_told settings medium events
    refine ⟨fun seen => ?_, fun answered => answered.outcome?⟩
    refine told ticket.serial ticket.id rpc (booked.ticket holds) ?_
    rw [booked.outline.table]
    exact outcome?_eq_answer_iff.mp seen
  resolves id rpc := by
    induction events using List.reverseRecOn with
    | nil => exact fun noted => absurd noted List.not_mem_nil
    | append_singleton events event ih =>
      intro noted
      rw [run_append] at noted
      have happens := happens_perform (size_le_mostCalls settings medium events) event
      rcases happens.result_cases ⟨rpc, rfl⟩ noted with old |
          ⟨heeds, request, receiver, rfl, live, found⟩
      · obtain ⟨before, heeds, after, request, receiver, split, rest⟩ := ih old
        refine ⟨before, heeds, after ++ [event], request, receiver, ?_, rest⟩
        rw [split, List.append_assoc, List.cons_append]
      · obtain ⟨l, booked, told⟩ := exists_told settings medium events
        refine ⟨events, heeds, [], request, receiver, rfl, Client.exists_job live, ?_⟩
        refine told _ _ rpc (booked.ticket (.inl ⟨_, live, rfl⟩)) ?_
        rw [booked.outline.table]
        exact outcome?_eq_answer_iff.mp found
  answers event frame id rpc taken decoded :=
    answer_cases (wellFormed_run settings medium events)
      (size_le_mostCalls settings medium events) taken decoded
  stays ticket holds outcome seen more := by
    obtain ⟨l, booked, -⟩ := exists_told settings medium events
    have made : ticket.serial < l.ids.length :=
      (List.getElem?_eq_some_iff.mp (booked.ticket holds)).1
    rw [booked.outline.consistent.counted, booked.outline.table] at made
    exact booked.outcome?_performAll (size_le_mostCalls settings medium events) made seen more

end World

end LspClient
