import LspClient.Proofs.Client.Steps

/-!
# Tickets and registrations

A ledger is laid beside a run, as far as the session's table goes: `Booked` says that it has
the table, and that every ticket that a job or the user holds names a registration under the
ticket's own id. Every event keeps that by operations of the table (`Booked.perform`). They
bring no answer, unless the event takes in a frame that is a response; then they are that
one answer (`Brings`).
-/

namespace LspClient

open Correlator

/-- What the operations of an event can be that takes in this frame, or none. -/
inductive Brings (frame? : Option Bytes) : List Operation → Prop
  | nothing {ops : List Operation} (silent : Silent ops) : Brings frame? ops
  | answer {frame : Bytes} {id : RequestId} {rpc : RpcOutcome} (taken : frame? = some frame)
      (decoded : Envelope.decode frame = .ok (.response ⟨some id, rpc⟩)) :
      Brings frame? [answering id rpc]

namespace Outline

variable {k k' : Outline} {id : JobId} {a b : Activity} {who? : Option JobId}
  {frame? : Option Bytes} {ticket : Ticket} {l : Ledger} {ops : List Operation}

/-! ## Who holds a ticket -/

theorem holds_add (h : (k.add a).Holds ticket) : k.Holds ticket ∨ a.ticket? = some ticket := by
  obtain ⟨j, hj, own⟩ := h
  rcases mem_add.mp hj with old | same
  · exact .inl ⟨j, old, own⟩
  · rw [same] at own
    exact .inr own

theorem holds_put (h : (k.put id b).Holds ticket) : k.Holds ticket ∨ b.ticket? = some ticket := by
  obtain ⟨j, hj, own⟩ := h
  rcases mem_put.mp hj with ⟨old, -⟩ | ⟨same, -⟩
  · exact .inl ⟨j, old, own⟩
  · rw [same] at own
    exact .inr own

theorem holds_erase (h : (k.erase id).Holds ticket) : k.Holds ticket := by
  obtain ⟨j, hj, own⟩ := h
  exact ⟨j, (mem_erase.mp hj).1, own⟩

theorem Yields.ticket?_eq (h : Yields k k' id a b) : b.ticket? = none := by
  cases h with
  | move step => cases step <;> rfl
  | close closes => cases closes <;> rfl
  | drain drains => cases drains <;> rfl
  | take | degrade | arrive | «open» | accept | install => rfl

theorem Begins.ticket?_eq (h : Begins k k' a b) : b.ticket? = none := by
  cases h <;> rfl

/-- A shift gives nobody a ticket. -/
theorem Shift.holds (h : k.Shift id a k') (holds : k'.Holds ticket) : k.Holds ticket := by
  obtain ⟨j, hj, own⟩ := holds
  rcases h.mem_cases hj with ⟨old, -⟩ | ⟨-, yields⟩ | begins
  · exact ⟨j, old, own⟩
  · rw [yields.ticket?_eq] at own
    cases own
  · rw [begins.ticket?_eq] at own
    cases own

/-! ## The ledger of a session -/

/-- A ledger that has the table of the session and knows every ticket that a job holds. -/
structure Booked (k : Outline) (l : Ledger) : Prop where
  consistent : l.Consistent
  table : l.table = k.session.correlator
  tickets : ∀ ticket, k.Holds ticket → l.ids[ticket.serial]? = some ticket.id

/-- The ledger goes on with the session. -/
theorem Booked.performAll (h : k.Booked l) (logs : k.session.Logs k'.session ops)
    (tickets : ∀ ticket, k'.Holds ticket →
      k.Holds ticket ∨ (l.performAll ops).ids[ticket.serial]? = some ticket.id) :
    k'.Booked (l.performAll ops) where
  consistent := h.consistent.performAll ops
  table := logs l h.table
  tickets ticket holds := by
    rcases tickets ticket holds with old | new
    · exact Ledger.ids_performAll h.consistent ops (h.tickets ticket old)
    · exact new

/-- It does so without an answer, if the session does and nobody gets a new ticket. -/
theorem Booked.silently (h : k.Booked l) (silently : k.session.Silently k'.session)
    (tickets : ∀ ticket, k'.Holds ticket → k.Holds ticket) :
    ∃ ops, Silent ops ∧ k'.Booked (l.performAll ops) := by
  obtain ⟨ops, silent, logs⟩ := silently
  exact ⟨ops, silent, h.performAll logs fun ticket holds => .inl (tickets ticket holds)⟩

/-- A registration is booked under the number that its ticket names. -/
theorem ids_register (consistent : l.Consistent) (free : l.table.contains ticket.id = false)
    (serial : ticket.serial = l.table.nextSerial) (method : String) (now : Nat) :
    (l.performAll [.register ticket.id method now]).ids[ticket.serial]? = some ticket.id := by
  obtain ⟨next, done⟩ : ∃ next, l.table.register ticket.id method now = .ok next :=
    register_isOk_iff.mpr free
  have step : l.performAll [.register ticket.id method now] =
      { l with table := next, ids := l.ids ++ [ticket.id] } := by
    show (l.perform (.register ticket.id method now)).1 = _
    unfold Ledger.perform
    dsimp only
    rw [done]
  rw [step, serial, ← consistent.counted]
  exact List.getElem?_concat_length

theorem Deed.booked (h : k.Booked l) (deed : k.Deed who? k') :
    ∃ ops, Silent ops ∧ k'.Booked (l.performAll ops) := by
  cases deed with
  | session _ silently => exact h.silently silently fun _ holds => holds
  | @issue s ticket method now deadline _ free serial logs =>
    refine ⟨[.register ticket.id method now], silent_singleton nofun, ?_⟩
    refine h.performAll logs fun other holds => ?_
    rcases holds_add holds with old | own
    · exact .inl old
    · cases own
      rw [← h.table] at free serial
      exact .inr (ids_register h.consistent free serial method now)
  | start _ _ known =>
    refine h.silently (Session.silently_same rfl) fun ticket holds => ?_
    rcases holds_add holds with old | own
    · exact old
    · exact known ticket own
  | connect =>
    refine h.silently (Session.silently_same rfl) fun ticket holds => ?_
    rcases holds_add holds with old | own
    · exact old
    · cases own
  | move _ _ _ _ _ known =>
    refine h.silently (Session.silently_same rfl) fun ticket holds => ?_
    rcases holds_put holds with old | own
    · exact old
    · exact known ticket own
  | leave => exact h.silently (Session.silently_same rfl) fun _ holds => holds_erase holds
  | note | serve | letGo => exact h.silently (Session.silently_same rfl) fun _ holds => holds
  | drop =>
    refine h.silently (Session.silently_drain ?_) fun _ holds => holds
    show k.session.drop.correlator = _
    rw [Session.drop_eq]

theorem Deeds.booked (h : k.Booked l) (deeds : k.Deeds who? k') :
    ∃ ops, Silent ops ∧ k'.Booked (l.performAll ops) := by
  induction deeds with
  | refl => exact ⟨[], silent_nil, h⟩
  | tail _ last ih =>
    obtain ⟨ops, silent, booked⟩ := ih
    obtain ⟨more, silent', booked'⟩ := Deed.booked booked last
    refine ⟨ops ++ more, silent.append silent', ?_⟩
    rw [Ledger.performAll_append]
    exact booked'

/-- A frame that is taken in brings its answer, if it is a response with an id. -/
theorem Booked.intake (h : k.Booked l) (frame : Bytes) :
    ∃ ops, Brings (some frame) ops ∧ (k.intake frame).Booked (l.performAll ops) := by
  have tickets (ticket : Ticket) (holds : (k.intake frame).Holds ticket) : k.Holds ticket := by
    unfold Outline.intake at holds
    split at holds
    · rcases holds_add holds with old | own
      · exact old
      · cases own
    · exact holds
  by_cases response : ∃ id rpc, Envelope.decode frame = .ok (.response ⟨some id, rpc⟩)
  · obtain ⟨id, rpc, decoded⟩ := response
    refine ⟨[answering id rpc], .answer rfl decoded, h.performAll ?_ fun ticket holds => ?_⟩
    · rw [session_intake]
      exact Session.logs_receive decoded
    · exact .inl (tickets ticket holds)
  · have same : (k.session.receive frame).1 = k.session :=
      Session.receive_of_other fun id rpc decoded => response ⟨id, rpc, decoded⟩
    refine ⟨[], .nothing silent_nil, h.performAll (Session.logs_nil ?_) fun ticket holds => ?_⟩
    · rw [session_intake, same]
    · exact .inl (tickets ticket holds)

theorem Does.booked (h : k.Booked l) (does : k.Does id a frame? k') :
    ∃ ops, Brings frame? ops ∧ k'.Booked (l.performAll ops) := by
  have quietly {m : Outline} (first : ∃ ops, Silent ops ∧ m.Booked (l.performAll ops))
      (deeds : m.Deeds (some id) k') : ∃ ops, Brings none ops ∧ k'.Booked (l.performAll ops) := by
    obtain ⟨ops, silent, booked⟩ := first
    obtain ⟨more, silent', booked'⟩ := Deeds.booked booked deeds
    refine ⟨ops ++ more, .nothing (silent.append silent'), ?_⟩
    rw [Ledger.performAll_append]
    exact booked'
  cases does with
  | deeds deeds => exact quietly ⟨[], silent_nil, h⟩ deeds
  | shift shift deeds =>
    exact quietly (h.silently shift.relinks.silently fun _ holds => shift.holds holds) deeds
  | @resolve request receiver outcome _ _ deeds =>
    have noted : ∃ ops, Silent ops ∧ (k.note id (.called outcome)).Booked (l.performAll ops) :=
      h.silently (Session.silently_same rfl) fun _ holds => holds
    exact quietly noted deeds
  | intake frame => exact h.intake frame

end Outline

/-! ## Runs -/

namespace World

variable {w : World} {l : Ledger}

/-- Whether a ticket is with a job or with a request that the user holds. -/
def Holds (w : World) (ticket : Ticket) : Prop :=
  w.client.outline.Holds ticket ∨ ∃ request ∈ w.held, request.ticket = ticket

/-- A ledger that has the table of the session and knows every ticket. -/
structure Booked (w : World) (l : Ledger) : Prop where
  outline : w.client.outline.Booked l
  held : ∀ request ∈ w.held, l.ids[request.ticket.serial]? = some request.ticket.id

/-- What the user holds afterwards he held before, or he has just sent it. -/
theorem held_cases (w : World) (event : Event) : ∀ request ∈ (w.occur event).held,
    request ∈ w.held ∨ ∃ id? method params,
      w.client.request id? method params = ((w.occur event).client, .ok request) := by
  intro request holds
  -- most events leave him what he has
  have same {w' : World} (h : w'.held = w.held) (holds : request ∈ w'.held) :
      request ∈ w.held ∨ ∃ id? method params,
        w.client.request id? method params = (w'.client, .ok request) := by
    rw [h] at holds
    exact .inl holds
  cases event with
  | request id? method params =>
    unfold occur at holds ⊢
    dsimp only at holds ⊢
    split at holds
    · next held =>
      rw [if_pos held]
      split at holds
      · next client sent done =>
        rcases List.mem_cons.mp holds with rfl | old
        · exact .inr ⟨id?, method, params, done⟩
        · exact .inl old
      · exact .inl holds
    · exact .inl holds
  | await other | dropRequest other =>
    unfold occur at holds
    dsimp only at holds
    split at holds
    · exact .inl (List.mem_of_mem_erase holds)
    · exact .inl holds
  | turn | dropHandle | abort | type | wait => exact same rfl holds
  | notify | cancel | cancelRequest | connect | call | shutDown | forward | route | serve =>
    refine same ?_ holds
    unfold occur
    dsimp only
    split <;> rfl

theorem held_occur (w : World) (event : Event) : ∀ request ∈ (w.occur event).held,
    request ∈ w.held ∨ (w.occur event).client.outline.Holds request.ticket := by
  intro request holds
  rcases held_cases w event request holds with old | ⟨id?, method, params, sent⟩
  · exact .inl old
  · exact .inr (Client.holds_request sent)

theorem Happens.booked {event : Event} {k : Outline} (h : w.Booked l)
    (happens : w.Happens event k) :
    ∃ ops, Brings (w.incoming? event) ops ∧ k.Booked (l.performAll ops) := by
  cases happens with
  | turn live does => exact Outline.Does.booked h.outline does
  | @await request held =>
    have awaits : (w.client.outline.add (.await request .caller .looking)).Booked l := by
      refine ⟨h.outline.consistent, h.outline.table, fun ticket holds => ?_⟩
      rcases Outline.holds_add holds with old | own
      · exact h.outline.tickets ticket old
      · cases own
        exact h.held request held
    exact ⟨[], .nothing silent_nil, awaits⟩
  | other nothing deeds =>
    obtain ⟨ops, silent, booked⟩ := Outline.Deeds.booked h.outline deeds
    exact ⟨ops, .nothing silent, booked⟩

theorem Booked.perform (h : w.Booked l) (room : w.client.session.correlator.size ≤ mostCalls)
    (event : Event) :
    ∃ ops, Brings (w.incoming? event) ops ∧ (w.perform event).Booked (l.performAll ops) := by
  obtain ⟨ops, brings, booked⟩ := Happens.booked h (happens_perform room event)
  have old {request : PendingRequest} (holds : request ∈ w.held) :
      (l.performAll ops).ids[request.ticket.serial]? = some request.ticket.id :=
    Ledger.ids_performAll h.outline.consistent ops (h.held request holds)
  refine ⟨ops, brings, booked, fun request holds => ?_⟩
  unfold World.perform at holds booked
  dsimp only at holds booked
  split at holds
  · next fits =>
    rw [if_pos fits] at booked
    rcases held_occur w event request holds with before | new
    · exact old before
    · exact booked.tickets _ new
  · exact old holds

theorem Booked.ticket {ticket : Ticket} (h : w.Booked l) (holds : w.Holds ticket) :
    l.ids[ticket.serial]? = some ticket.id := by
  rcases holds with job | ⟨request, holds, same⟩
  · exact h.outline.tickets ticket job
  · rw [← same]
    exact h.held request holds

theorem booked_create (settings : Settings) (medium : Medium) :
    World.Booked { client := Client.create settings medium } {} where
  outline := by
    refine ⟨Ledger.consistent_empty, rfl, fun ticket holds => ?_⟩
    obtain ⟨j, hj, -⟩ := holds
    cases hj
  held _ holds := absurd holds List.not_mem_nil

end World

end LspClient
