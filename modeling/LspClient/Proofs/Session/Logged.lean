import LspClient.Proofs.Correlator.Answers
import LspClient.Proofs.Session.Link

/-!
# What a session does to its table

Every operation of a session that touches the table of calls is a run of the table's own
operations. `Logs` says which: what the table operations lead to, whatever else a `Ledger`
remembers of earlier ones. So what becomes of a registration of a session is what the
theory of the table says.

An answer of the server is brought only by a response that was taken in (`logs_receive`);
everything else goes on `Silently`.
-/

namespace LspClient

open Correlator

namespace Session

variable {s t u : Session} {ops more : List Operation} {ticket : Ticket}

/-- The operations take the table of one session to that of the other. -/
def Logs (s t : Session) (ops : List Operation) : Prop :=
  ∀ l : Ledger, l.table = s.correlator → (l.performAll ops).table = t.correlator

/-- The table of one session becomes that of the other without an answer of the server. -/
def Silently (s t : Session) : Prop := ∃ ops, Silent ops ∧ s.Logs t ops

theorem logs_nil (same : t.correlator = s.correlator) : s.Logs t [] := by
  intro l table
  rw [same, ← table]
  rfl

theorem Logs.trans (h : s.Logs t ops) (h' : t.Logs u more) : s.Logs u (ops ++ more) := by
  intro l table
  rw [Ledger.performAll_append]
  exact h' _ (h l table)

theorem silently_same (same : t.correlator = s.correlator) : s.Silently t :=
  ⟨[], silent_nil, logs_nil same⟩

theorem Silently.trans (h : s.Silently t) (h' : t.Silently u) : s.Silently u := by
  obtain ⟨ops, silent, logs⟩ := h
  obtain ⟨more, silent', logs'⟩ := h'
  exact ⟨ops ++ more, silent.append silent', logs.trans logs'⟩

/-! ## Taking calls out -/

/-- A call that is taken out is thrown away. -/
theorem silently_discard (op : Operation) {call : PendingCall} {rest : Correlator}
    (nothing : op.brings? = none)
    (keeps : ∀ l : Ledger, l.table = s.correlator →
      (l.perform op).1 = { l with table := rest, kept := call :: l.kept })
    (same : t.correlator = rest.discard call) : s.Silently t := by
  refine ⟨[op, .drop call.serial], ?_, ?_⟩
  · have first : Silent [op] := by
      refine silent_singleton fun outcome brings => ?_
      rw [nothing] at brings
      cases brings
    exact first.append (silent_singleton nofun)
  · intro l table
    show ((l.perform op).1.perform (.drop call.serial)).1.table = _
    rw [keeps l table, same]
    unfold Ledger.perform
    simp only [List.find?_cons, beq_self_eq_true]

theorem silently_abandon? (h : s.abandon? ticket = some t) : s.Silently t := by
  obtain ⟨⟨call, rest⟩, taken, rfl⟩ := Option.map_eq_some_iff.mp h
  refine silently_discard (.abandon ticket.id ticket.serial) rfl ?_ rfl
  intro l table
  unfold Ledger.perform Ledger.keep
  rw [table]
  simp only [taken]

theorem silently_cancel? {id : RequestId} (h : s.cancel? id = some t) : s.Silently t := by
  obtain ⟨correlator, cancelled, rfl⟩ := Option.map_eq_some_iff.mp h
  refine ⟨[.cancel id], silent_singleton fun outcome brings => ?_, ?_⟩
  · cases brings
    exact not_isAnswer_error nofun
  · intro l table
    show (l.perform (.cancel id)).1.table = correlator
    unfold Ledger.perform Ledger.replace
    rw [table]
    simp only [cancelled]

theorem silently_expire? {error : CallError} (other : ¬ IsAnswer (.error error))
    (h : s.expire? ticket error = some t) : s.Silently t := by
  obtain ⟨correlator, expired, rfl⟩ := Option.map_eq_some_iff.mp h
  refine ⟨[.expire ticket.id ticket.serial error], silent_singleton fun outcome brings => ?_, ?_⟩
  · cases brings
    exact other
  · intro l table
    show (l.perform (.expire ticket.id ticket.serial error)).1.table = correlator
    unfold Ledger.perform Ledger.replace
    rw [table]
    simp only [expired]

theorem silently_drain (same : t.correlator = s.correlator.drain) : s.Silently t := by
  refine ⟨[.drain], silent_singleton fun outcome brings => ?_, ?_⟩
  · cases brings
    exact not_isAnswer_closed
  · intro l table
    rw [same, ← table]
    rfl

/-- The steps of jobs that have to do with the connection fail all calls, or none. -/
theorem Relinks.silently (h : s.Relinks t) : s.Silently t := by
  rcases h.keeps.2.2 with same | drained
  · exact silently_same same
  · exact silently_drain drained

/-! ## Sending -/

theorem correlator_post? {index : Nat} {frame : Bytes} (h : s.post? index frame = some t) :
    t.correlator = s.correlator := by
  rw [post?_eq_some h]
  rfl

theorem silently_send {message : Envelope} (h : s.send message = .ok t) : s.Silently t := by
  obtain ⟨index, -, posted⟩ := send_eq_ok h
  exact silently_same (correlator_post? posted)

theorem silently_cancelRequest? {id : RequestId} (h : s.cancelRequest? id = some t) :
    s.Silently t := by
  obtain ⟨cancelled, done, rfl⟩ := Option.map_eq_some_iff.mp h
  have first := silently_cancel? done
  unfold tellCancelled
  split
  · next told => exact first.trans (silently_send told)
  · exact first

theorem logs_register {id? : Option RequestId} {method : String} {now : Nat}
    (h : s.register id? method now = .ok (t, ticket)) :
    s.correlator.contains ticket.id = false ∧ ticket.serial = s.correlator.nextSerial ∧
      s.Logs t [.register ticket.id method now] := by
  obtain ⟨correlator, nextId, registered, rfl, serial, -⟩ := register_eq_ok h
  refine ⟨register_isOk_iff.mp ⟨_, registered⟩, serial, ?_⟩
  intro l table
  show (l.perform (.register ticket.id method now)).1.table = correlator
  unfold Ledger.perform
  rw [table]
  simp only [registered]

theorem readyOutbox_error {e : CallError} (h : s.readyOutbox = .error e) :
    ¬ IsAnswer (.error e) := by
  obtain ⟨state, rfl⟩ : ∃ state, e = .notReady state := by
    unfold readyOutbox at h
    split at h
    · split at h
      · cases h
      · cases h
        exact ⟨_, rfl⟩
    · cases h
      exact ⟨_, rfl⟩
  exact not_isAnswer_error fun _ same => by cases same

theorem register_error {id? : Option RequestId} {method : String} {now : Nat} {e : CallError}
    (h : s.register id? method now = .error e) : ¬ IsAnswer (.error e) := by
  have taken {id : RequestId} {e : CallError}
      (h : s.correlator.register id method now = .error e) : ¬ IsAnswer (.error e) := by
    unfold Correlator.register at h
    split at h
    · cases h
      exact not_isAnswer_error nofun
    · cases h
  unfold Session.register at h
  cases id? with
  | some id =>
    simp only [bind, Except.bind] at h
    split at h
    · next refused =>
      cases h
      exact taken refused
    · cases h
  | none =>
    simp only [bind, Except.bind] at h
    split at h
    · next refused =>
      cases h
      exact taken refused
    · cases h

/-- A request that is sent is registered under an id that is free and the next serial number;
one that is not sent leaves nothing behind that the server could have answered. -/
theorem logs_request (s : Session) (id? : Option RequestId) (method : String)
    (params : Option Json) (now : Nat) :
    (∃ e, (s.request id? method params now).2 = .error e ∧ ¬ IsAnswer (.error e) ∧
      s.Silently (s.request id? method params now).1) ∨
    ∃ ticket, (s.request id? method params now).2 = .ok ticket ∧
      s.correlator.contains ticket.id = false ∧ ticket.serial = s.correlator.nextSerial ∧
      s.Logs (s.request id? method params now).1 [.register ticket.id method now] := by
  unfold request
  cases ready : s.readyOutbox with
  | error e => exact .inl ⟨e, rfl, readyOutbox_error ready, silently_same rfl⟩
  | ok index =>
    cases done : s.register id? method now with
    | error e => exact .inl ⟨e, rfl, register_error done, silently_same rfl⟩
    | ok pair =>
      obtain ⟨registered, ticket⟩ := pair
      obtain ⟨free, serial, first⟩ := logs_register done
      have silent : Silent [.register ticket.id method now] := silent_singleton nofun
      have silently : s.Silently registered := ⟨_, silent, first⟩
      dsimp only
      split
      · next sent posted =>
        exact .inr ⟨ticket, rfl, free, serial, first.trans (logs_nil (correlator_post? posted))⟩
      · split
        · next call rest taken =>
          have undone :
              registered.Silently { registered with correlator := rest.discard call } := by
            refine silently_discard (.forget ticket.id) rfl ?_ rfl
            intro l table
            unfold Ledger.perform Ledger.keep
            rw [table]
            simp only [taken]
          exact .inl ⟨_, rfl, not_isAnswer_closed, silently.trans undone⟩
        · exact .inl ⟨_, rfl, not_isAnswer_closed, silently⟩

/-! ## Frames from the server -/

/-- A response with an id is an answer to whoever waits under it. -/
theorem logs_receive {frame : Bytes} {id : RequestId} {rpc : RpcOutcome}
    (decoded : Envelope.decode frame = .ok (.response ⟨some id, rpc⟩)) :
    s.Logs (s.receive frame).1 [answering id rpc] := by
  intro l table
  have asked : (l.perform (answering id rpc)).1 =
      (l.replace (s.correlator.answer id rpc).toOption).1 := by
    rw [← table]
    cases rpc <;> rfl
  show (l.perform (answering id rpc)).1.table = _
  unfold receive
  rw [asked, decoded]
  dsimp only
  cases s.correlator.answer id rpc with
  | ok correlator => rfl
  | error e => exact table

/-- Any other frame leaves the session as it is. -/
theorem receive_of_other {frame : Bytes}
    (other : ∀ id rpc, Envelope.decode frame ≠ .ok (.response ⟨some id, rpc⟩)) :
    (s.receive frame).1 = s := by
  unfold receive
  split
  · rfl
  · next id rpc decoded => exact absurd decoded (other id rpc)
  all_goals rfl

theorem size_receive_le (s : Session) (frame : Bytes) :
    (s.receive frame).1.correlator.size ≤ s.correlator.size := by
  unfold receive
  split
  · exact Nat.le_refl _
  · split
    · next answered =>
      obtain ⟨call, -, -, rfl⟩ := answer_eq_ok answered
      exact List.length_filter_le ..
    · exact Nat.le_refl _
  all_goals exact Nat.le_refl _

end Session

end LspClient
