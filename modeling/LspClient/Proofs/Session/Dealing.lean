import LspClient.Proofs.Session.Fresh
import LspClient.Proofs.Session.Link

/-!
# What is done to a session at once

Whatever happens to a client, one thing at most is done to its session, and `Dealing` says
which kind of thing that is. An `Errand` is the kind that may send a message: the session
after it is `carryOut`, and the message that it has sent, if it could, is `message?`.

`Deals` collects everything that is done to a session between the steps of jobs and the
operations of users. The lemmas after it say what each kind of thing leaves alone.
-/

namespace LspClient

/-- What a session is asked for that may put a message into the current outbox. -/
inductive Errand where
  | request (id? : Option RequestId) (method : String) (params : Option Json)
  | notify (method : String) (params : Option Json)
  | cancelRequest (id : RequestId)
  | respond (response : Response)

/-- The kinds of things that are done to a session. -/
inductive Dealing where
  /-- The session lets go of its connection, if anything is done at all. -/
  | link
  /-- All calls fail that are outstanding. -/
  | drain
  /-- A call leaves the table, if it is there. -/
  | calls
  | handlers
  /-- The next command is taken out of an outbox. -/
  | take (outbox : Nat)
  | install
  | errand (errand : Errand)

/-- Whether only the connection is dealt with. -/
def Dealing.isOfConnection : Dealing → Bool
  | .link | .take _ | .install => true
  | _ => false

namespace Session

variable {s t : Session} {now : Nat} {ticket : Ticket}

/-! ## Errands -/

/-- The session after an errand. -/
def carryOut (s : Session) (now : Nat) : Errand → Session
  | .request id? method params => (s.request id? method params now).1
  | .notify method params => (s.notify method params).toOption.getD s
  | .cancelRequest id => (s.cancelRequest? id).getD s
  | .respond response => (s.send (.response response)).toOption.getD s

/-- The message that an errand sends, if it can. -/
def message? (s : Session) (now : Nat) : Errand → Option Envelope
  | .request id? method params =>
    (s.request id? method params now).2.toOption.map fun ticket =>
      .request ⟨ticket.id, method, params⟩
  | .notify method params =>
    (s.notify method params).toOption.map fun _ => .notification ⟨method, params⟩
  | .cancelRequest id =>
    (s.cancel? id).bind fun cancelled =>
      (cancelled.notify cancelMethod (some (cancelParams id))).toOption.map fun _ =>
        .notification ⟨cancelMethod, some (cancelParams id)⟩
  | .respond response => (s.send (.response response)).toOption.map fun _ => .response response

/-- A request that is sent is registered, and its frame is put into the current outbox. -/
theorem request_eq_ok {id? : Option RequestId} {method : String} {params : Option Json}
    (h : (s.request id? method params now).2 = .ok ticket) :
    ∃ index registered, s.readyOutbox = .ok index ∧
      s.register id? method now = .ok (registered, ticket) ∧
      (s.request id? method params now).1 =
        registered.enqueue index (.send (Envelope.request ⟨ticket.id, method, params⟩).encode) := by
  unfold request at h ⊢
  cases ready : s.readyOutbox with
  | error e =>
    rw [ready] at h
    cases h
  | ok index =>
    cases done : s.register id? method now with
    | error e =>
      rw [ready, done] at h
      cases h
    | ok pair =>
      obtain ⟨registered, own⟩ := pair
      rw [ready, done] at h
      dsimp only at h ⊢
      split at h
      · next sent posted =>
        cases h
        exact ⟨index, registered, rfl, rfl, post?_eq_some posted⟩
      · split at h <;> cases h

/-- Only an errand that is a request sends one. -/
theorem message?_eq_request {errand : Errand} {request : Request}
    (h : s.message? now errand = some (.request request)) :
    ∃ id? ticket, errand = .request id? request.method request.params ∧
      (s.request id? request.method request.params now).2 = .ok ticket ∧
      ticket.id = request.id := by
  cases errand with
  | request id? method params =>
    unfold message? at h
    dsimp only at h
    cases result : (s.request id? method params now).2 with
    | ok ticket =>
      rw [result] at h
      cases h
      exact ⟨id?, ticket, rfl, result, rfl⟩
    | error e =>
      rw [result] at h
      cases h
  | notify method params =>
    obtain ⟨_, -, same⟩ := Option.map_eq_some_iff.mp h
    cases same
  | cancelRequest id =>
    obtain ⟨_, -, told⟩ := Option.bind_eq_some_iff.mp h
    obtain ⟨_, -, same⟩ := Option.map_eq_some_iff.mp told
    cases same
  | respond response =>
    obtain ⟨_, -, same⟩ := Option.map_eq_some_iff.mp h
    cases same

/-- A request that is refused leaves the session as it is, but a registration that had to be
taken back has used up its number. -/
theorem request_eq_error {id? : Option RequestId} {method : String} {params : Option Json}
    {e : CallError} (h : (s.request id? method params now).2 = .error e) :
    (s.request id? method params now).1 = s ∨ ∃ registered ticket call,
      s.register id? method now = .ok (registered, ticket) ∧
      call ∈ registered.correlator.pending ∧ call.id = ticket.id ∧
      (s.request id? method params now).1 =
        { registered with
          correlator := (registered.correlator.erase call.id).deliver call .discarded } := by
  unfold request at h ⊢
  cases ready : s.readyOutbox with
  | error e => exact .inl rfl
  | ok index =>
    cases done : s.register id? method now with
    | error e => exact .inl rfl
    | ok pair =>
      obtain ⟨registered, ticket⟩ := pair
      rw [ready, done] at h
      dsimp only at h ⊢
      split at h
      · cases h
      · -- what has just been registered is found
        obtain ⟨correlator, nextId, inTable, rfl, -⟩ := register_eq_ok done
        have found : correlator.contains ticket.id = true :=
          Correlator.contains_iff.mpr ⟨_, (Correlator.mem_register inTable).mpr (.inr rfl), rfl⟩
        obtain ⟨call, hcall⟩ := Option.isSome_iff_exists.mp found
        have taken : correlator.forget? ticket.id = some (call, correlator.erase ticket.id) := by
          unfold Correlator.forget?
          rw [hcall]
          rfl
        obtain ⟨member, own⟩ := Correlator.mem_of_find?_eq_some hcall
        refine .inr ⟨_, _, call, rfl, member, own, ?_⟩
        simp only [taken, own]
        rfl

/-- What is sent goes into the current outbox. -/
theorem send_cases (s : Session) (message : Envelope) :
    (∃ e, s.send message = .error e) ∨ ∃ index, s.readyOutbox = .ok index ∧
      s.send message = .ok (s.enqueue index (.send message.encode)) := by
  cases sent : s.send message with
  | error e => exact .inl ⟨e, rfl⟩
  | ok t =>
    obtain ⟨index, ready, posted⟩ := send_eq_ok sent
    rw [post?_eq_some posted]
    exact .inr ⟨index, ready, rfl⟩

/-- What an errand does to a session, beside putting a message into the current outbox. -/
inductive Prepares (s : Session) (now : Nat) : Errand → Session → Prop
  | kept {errand : Errand} : Prepares s now errand s
  | registered {id? : Option RequestId} {method : String} {params : Option Json} {t : Session}
    {ticket : Ticket} (done : s.register id? method now = .ok (t, ticket))
    (sent : (s.request id? method params now).2 = .ok ticket) :
    Prepares s now (.request id? method params) t
  /-- The registration is taken back. -/
  | undone {id? : Option RequestId} {method : String} {params : Option Json} {t : Session}
    {ticket : Ticket} {call : PendingCall} (done : s.register id? method now = .ok (t, ticket))
    (member : call ∈ t.correlator.pending) (own : call.id = ticket.id) :
    Prepares s now (.request id? method params)
      { t with correlator := (t.correlator.erase call.id).deliver call .discarded }
  | cancelled {call : PendingCall} (delivery : Delivery) (member : call ∈ s.correlator.pending) :
    Prepares s now (.cancelRequest call.id)
      { s with correlator := (s.correlator.erase call.id).deliver call delivery }

/-- The frame of the message that an errand sends, if it sends one, goes into the current
outbox. -/
theorem carryOut_eq (s : Session) (now : Nat) (errand : Errand) :
    ∃ t, s.Prepares now errand t ∧
      match s.message? now errand with
      | none => s.carryOut now errand = t
      | some message => ∃ index, s.readyOutbox = .ok index ∧
          s.carryOut now errand = t.enqueue index (.send message.encode) := by
  unfold carryOut message?
  cases errand with
  | request id? method params =>
    dsimp only
    cases result : (s.request id? method params now).2 with
    | ok ticket =>
      obtain ⟨index, registered, ready, done, after⟩ := request_eq_ok result
      exact ⟨registered, .registered done result, index, ready, after⟩
    | error e =>
      rcases request_eq_error result with same | ⟨registered, ticket, call, done, member, own, after⟩
      · exact ⟨s, .kept, same⟩
      · exact ⟨_, .undone done member own, after⟩
  | notify method params =>
    refine ⟨s, .kept, ?_⟩
    unfold notify
    dsimp only
    rcases s.send_cases (.notification ⟨method, params⟩) with ⟨e, refused⟩ | ⟨index, ready, sent⟩
    · rw [refused]
      rfl
    · rw [sent]
      exact ⟨index, ready, rfl⟩
  | respond response =>
    refine ⟨s, .kept, ?_⟩
    dsimp only
    rcases s.send_cases (.response response) with ⟨e, refused⟩ | ⟨index, ready, sent⟩
    · rw [refused]
      rfl
    · rw [sent]
      exact ⟨index, ready, rfl⟩
  | cancelRequest id =>
    unfold cancelRequest? tellCancelled notify
    dsimp only
    cases done : s.cancel? id with
    | none => exact ⟨s, .kept, rfl⟩
    | some cancelled =>
      -- the call is taken out before the server is told
      have prepares : s.Prepares now (.cancelRequest id) cancelled ∧
          cancelled.readyOutbox = s.readyOutbox := by
        obtain ⟨correlator, settled, rfl⟩ := Option.map_eq_some_iff.mp done
        obtain ⟨call, member, rfl, rfl⟩ := Correlator.settle?_eq_some settled
        exact ⟨.cancelled _ member, rfl⟩
      refine ⟨cancelled, prepares.1, ?_⟩
      rw [← prepares.2]
      rcases cancelled.send_cases (.notification ⟨cancelMethod, some (cancelParams id)⟩) with
        ⟨e, refused⟩ | ⟨index, ready, sent⟩
      · simp only [Option.map_some, Option.bind_some, refused]
        rfl
      · simp only [Option.map_some, Option.bind_some, sent]
        exact ⟨index, ready, rfl⟩

theorem Prepares.exists_eq {errand : Errand} (h : s.Prepares now errand t) :
    ∃ correlator nextId, t = { s with correlator, nextId } := by
  cases h with
  | kept => exact ⟨s.correlator, s.nextId, rfl⟩
  | registered done | undone done =>
    obtain ⟨correlator, nextId, -, rfl, -⟩ := register_eq_ok done
    exact ⟨_, nextId, rfl⟩
  | cancelled => exact ⟨_, s.nextId, rfl⟩

/-! ## Everything that is done -/

/-- What is done to a session at once. -/
inductive Deals (s : Session) (now : Nat) : Dealing → Session → Prop
  /-- Nothing is done. -/
  | rest {dealing : Dealing} (idle : ∀ errand, dealing ≠ .errand errand) : Deals s now dealing s
  | removed {call : PendingCall} (delivery : Delivery) (member : call ∈ s.correlator.pending) :
    Deals s now .calls { s with correlator := (s.correlator.erase call.id).deliver call delivery }
  | routed (dispatcher : Dispatcher) : Deals s now .handlers { s with dispatcher }
  | unmanned (outbox? : Option Nat) : Deals s now .link (s.unman outbox?)
  | lost {generation : Nat} {t : Session} (lost : s.reportLoss? generation = some t) :
    Deals s now .link t
  | closed {t : Session} (closed : s.close? = some t) : Deals s now .link t
  | drained (outbox? : Option Nat) : Deals s now .drain (s.drain.unman outbox?)
  | taken {index : Nat} {box : Outbox} {command : WriterCommand} {rest : List WriterCommand}
    (found : s.outboxes[index]? = some box) (head : box.commands = command :: rest) :
    Deals s now (.take index) (s.modifyOutbox index fun o => { o with commands := rest })
  | installed {why : Search} {reader writer : JobId} {t : Session}
    (done : s.install why.state reader writer = .ok t) : Deals s now .install t
  | carriedOut (errand : Errand) : Deals s now (.errand errand) (s.carryOut now errand)

/-- Nothing was done to the connection. -/
theorem deals_link : Deals s now .link s := .rest nofun

theorem deals_calls : Deals s now .calls s := .rest nofun

theorem deals_receive (s : Session) (now : Nat) (frame : Bytes) :
    s.Deals now .calls (s.receive frame).1 := by
  unfold receive
  split
  · exact deals_calls
  · split
    · next answered =>
      obtain ⟨call, member, -, rfl⟩ := Correlator.answer_eq_ok answered
      exact .removed _ member
    · exact deals_calls
  all_goals exact deals_calls

theorem deals_abandon? (h : s.abandon? ticket = some t) : s.Deals now .calls t := by
  obtain ⟨⟨call, rest⟩, taken, rfl⟩ := Option.map_eq_some_iff.mp h
  obtain ⟨member, -, -, rfl⟩ := Correlator.abandon?_eq_some taken
  exact .removed _ member

theorem deals_expire? {error : CallError} (h : s.expire? ticket error = some t) :
    s.Deals now .calls t := by
  obtain ⟨correlator, expired, rfl⟩ := Option.map_eq_some_iff.mp h
  obtain ⟨call, member, -, -, rfl⟩ := Correlator.expire?_eq_some expired
  exact .removed _ member

theorem deals_cancel? {id : RequestId} (h : s.cancel? id = some t) : s.Deals now .calls t := by
  obtain ⟨correlator, cancelled, rfl⟩ := Option.map_eq_some_iff.mp h
  obtain ⟨call, member, -, rfl⟩ := Correlator.settle?_eq_some cancelled
  exact .removed _ member

/-! ## What it leaves alone -/

variable {dealing : Dealing}

/-- After an errand the table is what it was before the message was put into the outbox. -/
theorem exists_prepares (s : Session) (now : Nat) (errand : Errand) :
    ∃ t, s.Prepares now errand t ∧ (s.carryOut now errand).correlator = t.correlator := by
  obtain ⟨t, prepares, after⟩ := carryOut_eq s now errand
  refine ⟨t, prepares, ?_⟩
  split at after
  · rw [after]
  · obtain ⟨index, -, after⟩ := after
    rw [after]
    rfl

/-- A call that is outstanding was so before, or it has just been registered with the next
serial number by a request that was sent. -/
theorem Deals.mem_pending (h : s.Deals now dealing t) {call : PendingCall}
    (member : call ∈ t.correlator.pending) : call ∈ s.correlator.pending ∨
      ∃ id? method params ticket, dealing = .errand (.request id? method params) ∧
        (s.request id? method params now).2 = .ok ticket ∧
        call.id = ticket.id ∧ call.serial = ticket.serial ∧
        call.serial = s.correlator.nextSerial := by
  have erased {c : Correlator} {other : PendingCall} {delivery : Delivery}
      (member : call ∈ ((c.erase other.id).deliver other delivery).pending) :
      call ∈ c.pending ∧ call.id ≠ other.id := Correlator.mem_pending_erase.mp member
  have drained (c : Correlator) : call ∉ c.drain.pending := by
    rw [Correlator.pending_drain]
    exact List.not_mem_nil
  cases h with
  | rest | routed | taken => exact .inl member
  | removed => exact .inl (erased member).1
  | unmanned outbox? =>
    rw [unman_eq] at member
    exact .inl member
  | drained outbox? =>
    rw [unman_eq] at member
    exact absurd member (drained _)
  | lost lost =>
    obtain ⟨-, -, rfl⟩ := reportLoss?_eq_some_iff.mp lost
    exact .inl member
  | closed closed =>
    obtain ⟨-, rfl⟩ := close?_eq_some_iff.mp closed
    exact .inl member
  | installed done =>
    obtain ⟨-, rfl⟩ := install_eq_ok_iff.mp done
    exact .inl member
  | carriedOut errand =>
    obtain ⟨base, prepares, same⟩ := exists_prepares s now errand
    rw [same] at member
    cases prepares with
    | kept => exact .inl member
    | cancelled => exact .inl (erased member).1
    | registered done sent =>
      obtain ⟨correlator, nextId, registered, rfl, serial, -⟩ := register_eq_ok done
      rcases (Correlator.mem_register registered).mp member with old | rfl
      · exact .inl old
      · exact .inr ⟨_, _, _, _, rfl, sent, rfl, serial.symm, rfl⟩
    | undone done _ own =>
      obtain ⟨correlator, nextId, registered, rfl, -⟩ := register_eq_ok done
      obtain ⟨member, other⟩ := erased member
      rcases (Correlator.mem_register registered).mp member with old | rfl
      · exact .inl old
      · exact absurd own.symm other

/-- Calls, counters and handlers are the same in both. -/
structure SameCalls (s t : Session) : Prop where
  correlator : t.correlator = s.correlator
  nextId : t.nextId = s.nextId
  dispatcher : t.dispatcher = s.dispatcher

theorem SameCalls.trans {u : Session} (h : s.SameCalls t) (h' : t.SameCalls u) : s.SameCalls u where
  correlator := h'.correlator.trans h.correlator
  nextId := h'.nextId.trans h.nextId
  dispatcher := h'.dispatcher.trans h.dispatcher

theorem Deals.sameCalls (h : s.Deals now dealing t) (own : dealing.isOfConnection = true) :
    s.SameCalls t := by
  cases h with
  | rest | taken => exact ⟨rfl, rfl, rfl⟩
  | unmanned outbox? =>
    rw [unman_eq]
    exact ⟨rfl, rfl, rfl⟩
  | lost lost =>
    obtain ⟨-, -, rfl⟩ := reportLoss?_eq_some_iff.mp lost
    exact ⟨rfl, rfl, rfl⟩
  | closed closed =>
    obtain ⟨-, rfl⟩ := close?_eq_some_iff.mp closed
    exact ⟨rfl, rfl, rfl⟩
  | installed done =>
    obtain ⟨-, rfl⟩ := install_eq_ok_iff.mp done
    exact ⟨rfl, rfl, rfl⟩
  | removed | routed | drained | carriedOut => cases own

/-- Only what takes calls out, and a cancellation, takes an outstanding call out of the table,
unless all of them fail. -/
theorem Deals.stays (h : s.Deals now dealing t) (drains : dealing ≠ .drain)
    (calls : dealing ≠ .calls) (cancels : ∀ id, dealing ≠ .errand (.cancelRequest id))
    {call : PendingCall} (member : call ∈ s.correlator.pending) : call ∈ t.correlator.pending := by
  have same (own : dealing.isOfConnection = true) : call ∈ t.correlator.pending := by
    rw [(h.sameCalls own).correlator]
    exact member
  cases h with
  | rest | routed => exact member
  | removed => exact absurd rfl calls
  | drained => exact absurd rfl drains
  | unmanned | lost | closed | taken | installed => exact same rfl
  | carriedOut errand =>
    obtain ⟨base, prepares, same⟩ := exists_prepares s now errand
    rw [same]
    cases prepares with
    | kept => exact member
    | registered done =>
      obtain ⟨_, _, registered, rfl, -⟩ := register_eq_ok done
      exact (Correlator.mem_register registered).mpr (.inl member)
    | @undone _ _ _ _ ticket undone done _ own =>
      -- the id was free, so the registration that is taken back is none of the old calls
      obtain ⟨correlator, nextId, registered, rfl, -⟩ := register_eq_ok done
      have free := Correlator.register_isOk_iff.mp ⟨_, registered⟩
      refine Correlator.mem_pending_erase.mpr ⟨?_, fun taken => ?_⟩
      · exact (Correlator.mem_register registered).mpr (.inl member)
      · rw [Correlator.contains_iff.mpr ⟨call, member, taken.trans own⟩] at free
        cases free
    | cancelled => exact absurd rfl (cancels _)

theorem Deals.isDropped_eq (h : s.Deals now dealing t) : t.isDropped = s.isDropped := by
  cases h with
  | rest | removed | routed | taken => rfl
  | unmanned outbox? =>
    rw [unman_eq]
  | drained outbox? =>
    rw [unman_eq]
    rfl
  | lost lost =>
    obtain ⟨-, -, rfl⟩ := reportLoss?_eq_some_iff.mp lost
    rfl
  | closed closed =>
    obtain ⟨-, rfl⟩ := close?_eq_some_iff.mp closed
    rfl
  | installed done =>
    obtain ⟨-, rfl⟩ := install_eq_ok_iff.mp done
    rfl
  | carriedOut errand =>
    obtain ⟨base, prepares, after⟩ := carryOut_eq s now errand
    obtain ⟨correlator, nextId, rfl⟩ := prepares.exists_eq
    split at after
    · rw [after]
    · obtain ⟨index, -, after⟩ := after
      rw [after]
      rfl

end Session

end LspClient
