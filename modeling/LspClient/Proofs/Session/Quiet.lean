import Mathlib.Logic.Relation
import LspClient.Proofs.Correlator.Table
import LspClient.Session.Basic

/-!
# What leaves the connection alone

Most of what is done with a session has nothing to do with its connection: it registers or
removes calls, puts frames into the current outbox, or changes handlers. `Quiet` lists
these small changes, and the lemmas `quiets_request` to `quiets_receive` show that every
operation on calls, and every frame that comes in, is made of them.

`Quiet.sameLink` states what they all keep: lifecycle, generation and connection stay, and
outboxes only grow by frames. In a session that is not ready there is even less to do: no
call is registered and no frame is put anywhere (`Quiet.of_not_ready`).
-/

namespace LspClient

/-- An outbox that has got some more frames and is otherwise the same. -/
structure Outbox.Grows (a b : Outbox) : Prop where
  isSealed : b.isSealed = a.isSealed
  isManned : b.isManned = a.isManned
  commands : ∃ frames : List Bytes, b.commands = a.commands ++ frames.map .send

theorem Outbox.grows_refl (a : Outbox) : a.Grows a := ⟨rfl, rfl, [], by simp⟩

namespace Session

variable {s t : Session}

/-! ## The operations that the others are made of -/

theorem readyOutbox_eq_ok_iff {index : Nat} :
    s.readyOutbox = .ok index ↔ s.lifecycle = .ready ∧ s.outbox? = some index := by
  unfold readyOutbox
  constructor
  · intro h
    split at h
    · next ready =>
      split at h
      · next found =>
        cases h
        exact ⟨ready, found⟩
      · cases h
    · cases h
  · intro h
    rw [if_pos h.1, h.2]

/-- Registering takes an id that is not outstanding, the next serial number, and touches
nothing but the table and the next id. -/
theorem register_eq_ok {id? : Option RequestId} {method : String} {now : Nat} {ticket : Ticket}
    (h : s.register id? method now = .ok (t, ticket)) :
    ∃ correlator nextId, s.correlator.register ticket.id method now = .ok correlator ∧
      t = { s with correlator, nextId } ∧
      ticket.serial = s.correlator.nextSerial ∧ ticket.method = method := by
  unfold register at h
  cases id? with
  | some id =>
    simp only [bind, Except.bind] at h
    split at h
    · cases h
    · next correlator registered =>
      cases h
      exact ⟨correlator, _, registered, rfl, rfl, rfl⟩
  | none =>
    simp only [bind, Except.bind] at h
    split at h
    · cases h
    · next correlator registered =>
      cases h
      exact ⟨correlator, _, registered, rfl, rfl, rfl⟩

theorem post?_eq_some {index : Nat} {frame : Bytes} (h : s.post? index frame = some t) :
    t = s.enqueue index (.send frame) := by
  unfold post? at h
  split at h
  · exact (Option.some.inj h).symm
  · cases h

theorem send_eq_ok {message : Envelope} (h : s.send message = .ok t) :
    ∃ index, s.readyOutbox = .ok index ∧ s.post? index message.encode = some t := by
  unfold send at h
  cases hready : s.readyOutbox with
  | error e =>
    rw [hready] at h
    cases h
  | ok index =>
    rw [hready] at h
    simp only [bind, Except.bind] at h
    split at h
    · next sent posted =>
      cases h
      exact ⟨index, rfl, posted⟩
    · cases h

theorem getElem?_modifyOutbox (s : Session) (index : Nat) (change : Outbox → Outbox) (i : Nat) :
    (s.modifyOutbox index change).outboxes[i]? =
      if index = i then s.outboxes[i]?.map change else s.outboxes[i]? := by
  show (s.outboxes.modify index change)[i]? = _
  rw [List.getElem?_modify]
  split
  · rfl
  · exact Option.map_id_apply

/-! ## Small changes -/

/-- One small change that leaves the connection alone. -/
inductive Quiet (s : Session) : Session → Prop
  | registered {index : Nat} {id? : Option RequestId} {method : String} {now : Nat}
      {t : Session} {ticket : Ticket} (ready : s.readyOutbox = .ok index)
      (done : s.register id? method now = .ok (t, ticket)) : Quiet s t
  | posted {index : Nat} {frame : Bytes} {t : Session} (ready : s.readyOutbox = .ok index)
      (done : s.post? index frame = some t) : Quiet s t
  | removed {call : PendingCall} (delivery : Delivery) (member : call ∈ s.correlator.pending) :
    Quiet s { s with correlator := (s.correlator.erase call.id).deliver call delivery }
  | routed (dispatcher : Dispatcher) : Quiet s { s with dispatcher }

/-- Any number of small changes. -/
abbrev Quiets : Session → Session → Prop := Relation.ReflTransGen Quiet

/-- What small changes keep of the connection. -/
structure SameLink (s t : Session) : Prop where
  settings : t.settings = s.settings
  lifecycle : t.lifecycle = s.lifecycle
  generation : t.generation = s.generation
  outbox? : t.outbox? = s.outbox?
  isDropped : t.isDropped = s.isDropped
  length : t.outboxes.length = s.outboxes.length
  boxes : ∀ (i : Nat) (b : Outbox), t.outboxes[i]? = some b →
    ∃ a : Outbox, s.outboxes[i]? = some a ∧ a.Grows b

theorem Quiet.sameLink (h : Quiet s t) : SameLink s t := by
  cases h with
  | registered _ done =>
    obtain ⟨correlator, nextId, -, rfl, -⟩ := register_eq_ok done
    exact ⟨rfl, rfl, rfl, rfl, rfl, rfl, fun _ b hb => ⟨b, hb, b.grows_refl⟩⟩
  | @posted index frame _ _ done =>
    rw [post?_eq_some done]
    refine ⟨rfl, rfl, rfl, rfl, rfl, List.length_modify .., ?_⟩
    intro i b hb
    have hb' : (if index = i then s.outboxes[i]?.map _ else s.outboxes[i]?) = some b :=
      (getElem?_modifyOutbox ..).symm.trans hb
    split at hb'
    · obtain ⟨a, ha, rfl⟩ := Option.map_eq_some_iff.mp hb'
      exact ⟨a, ha, rfl, rfl, [frame], rfl⟩
    · exact ⟨b, hb', b.grows_refl⟩
  | removed _ _ => exact ⟨rfl, rfl, rfl, rfl, rfl, rfl, fun _ b hb => ⟨b, hb, b.grows_refl⟩⟩
  | routed _ => exact ⟨rfl, rfl, rfl, rfl, rfl, rfl, fun _ b hb => ⟨b, hb, b.grows_refl⟩⟩

/-- Small changes keep the table well formed. -/
theorem Quiet.wellFormed (h : Quiet s t) (wf : s.correlator.WellFormed) :
    t.correlator.WellFormed := by
  cases h with
  | registered _ done =>
    obtain ⟨correlator, nextId, registered, rfl, -⟩ := register_eq_ok done
    exact wf.register registered
  | posted _ done =>
    rw [post?_eq_some done]
    exact wf
  | removed delivery member => exact wf.remove member delivery
  | routed _ => exact wf

/-- Unless the session is ready, small changes only take calls out of the table or change
handlers. -/
theorem Quiet.of_not_ready (h : Quiet s t) (notReady : s.lifecycle ≠ .ready) :
    t.outboxes = s.outboxes ∧ t.correlator.nextSerial = s.correlator.nextSerial ∧
      t.correlator.pending.Sublist s.correlator.pending ∧
      ∀ serial, (∀ call ∈ s.correlator.pending, call.serial ≠ serial) →
        t.correlator.delivery serial = s.correlator.delivery serial := by
  cases h with
  | registered ready _ => exact absurd (readyOutbox_eq_ok_iff.mp ready).1 notReady
  | posted ready _ => exact absurd (readyOutbox_eq_ok_iff.mp ready).1 notReady
  | @removed call delivery member =>
    refine ⟨rfl, Correlator.nextSerial_deliver .., List.filter_sublist, ?_⟩
    exact fun serial outside =>
      Correlator.delivery_deliver_of_ne (outside call member).symm _ delivery
  | routed _ => exact ⟨rfl, rfl, .refl _, fun _ _ => rfl⟩

/-! ## What is made of small changes -/

theorem readyOutbox_register {id? : Option RequestId} {method : String} {now : Nat}
    {ticket : Ticket} (h : s.register id? method now = .ok (t, ticket)) :
    t.readyOutbox = s.readyOutbox := by
  obtain ⟨correlator, nextId, -, rfl, -⟩ := register_eq_ok h
  rfl

theorem quiets_request (s : Session) (id? : Option RequestId) (method : String)
    (params : Option Json) (now : Nat) : Quiets s (s.request id? method params now).1 := by
  unfold request
  cases hready : s.readyOutbox with
  | error e => exact .refl
  | ok index =>
    cases hregistered : s.register id? method now with
    | error e => exact .refl
    | ok pair =>
      obtain ⟨registered, ticket⟩ := pair
      have first : Quiets s registered := .single (.registered hready hregistered)
      dsimp only
      split
      · next posted =>
        refine first.tail (.posted ?_ posted)
        rw [readyOutbox_register hregistered, hready]
      · split
        · next call rest taken =>
          obtain ⟨member, -, rfl⟩ := Correlator.forget?_eq_some taken
          exact first.tail (.removed .discarded member)
        · exact first

theorem quiets_send {message : Envelope} (h : s.send message = .ok t) : Quiets s t := by
  obtain ⟨index, ready, posted⟩ := send_eq_ok h
  exact .single (.posted ready posted)

theorem quiets_cancel? {id : RequestId} (h : s.cancel? id = some t) : Quiets s t := by
  obtain ⟨correlator, hcancel, rfl⟩ := Option.map_eq_some_iff.mp h
  obtain ⟨call, member, -, rfl⟩ := Correlator.settle?_eq_some hcancel
  exact .single (.removed _ member)

theorem quiets_cancelRequest? {id : RequestId} (h : s.cancelRequest? id = some t) :
    Quiets s t := by
  obtain ⟨cancelled, hcancel, rfl⟩ := Option.map_eq_some_iff.mp h
  have first := quiets_cancel? hcancel
  unfold tellCancelled
  split
  · next told => exact first.trans (quiets_send told)
  · exact first

theorem quiets_expire? {ticket : Ticket} {error : CallError}
    (h : s.expire? ticket error = some t) : Quiets s t := by
  obtain ⟨correlator, hexpire, rfl⟩ := Option.map_eq_some_iff.mp h
  obtain ⟨call, member, -, -, rfl⟩ := Correlator.expire?_eq_some hexpire
  exact .single (.removed _ member)

theorem quiets_abandon? {ticket : Ticket} (h : s.abandon? ticket = some t) : Quiets s t := by
  obtain ⟨⟨call, rest⟩, habandon, rfl⟩ := Option.map_eq_some_iff.mp h
  obtain ⟨member, -, -, rfl⟩ := Correlator.abandon?_eq_some habandon
  exact .single (.removed _ member)

theorem quiets_receive (s : Session) (frame : Bytes) : Quiets s (s.receive frame).1 := by
  unfold receive
  split
  · exact .refl
  · split
    · next answered =>
      obtain ⟨call, member, -, rfl⟩ := Correlator.answer_eq_ok answered
      exact .single (.removed _ member)
    · exact .refl
  · exact .refl
  · exact .refl
  · exact .refl
  · exact .refl

end Session

end LspClient
