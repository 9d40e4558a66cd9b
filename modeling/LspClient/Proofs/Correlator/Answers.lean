import LspClient.Proofs.Correlator.Delivery

/-!
# Where answers come from

Of all that a registration can come to, an *answer* is what the server has sent: a result or
an error of its own. `delivered_perform` says that what is delivered to a registration stays,
and was brought by an operation that concerned the registration while it was in the table;
`answering` is the only operation that brings an answer, and `Silent` ones bring none.
-/

namespace LspClient

/-- What the server has answered, as the caller sees it. -/
def IsAnswer (outcome : Outcome) : Prop := ∃ rpc : RpcOutcome, outcome = rpc.mapError .rpc

theorem not_isAnswer_error {error : CallError} (h : ∀ e, error ≠ .rpc e) :
    ¬ IsAnswer (.error error) := by
  intro answer
  obtain ⟨rpc, same⟩ := answer
  cases rpc with
  | ok result => cases same
  | error e => exact h e (Except.error.inj same)

theorem not_isAnswer_closed : ¬ IsAnswer (.error .connectionClosed) := not_isAnswer_error nofun

namespace Correlator

/-- The outcome that an operation brings to the registrations that it fulfils. -/
def Operation.brings? : Operation → Option Outcome
  | .resolve _ result => some (.ok result)
  | .reject _ error => some (.error (.rpc error))
  | .cancel _ => some (.error .cancelled)
  | .expire _ _ error => some (.error error)
  | .drain => some (.error .connectionClosed)
  | .register .. | .forget _ | .abandon .. | .drop _ => none

theorem brings?_of_fate {op : Operation} {id : RequestId} {serial : Nat} {outcome : Outcome}
    (h : op.fate? id serial = some (.fulfilled outcome)) : op.brings? = some outcome := by
  cases op with
  | register | drop => cases h
  | drain =>
    cases h
    rfl
  | forget | abandon =>
    unfold Operation.fate? at h
    dsimp only at h
    split at h <;> cases h
  | resolve | reject | cancel | expire =>
    unfold Operation.fate? at h
    dsimp only at h
    split at h
    · cases h
      rfl
    · cases h

/-- No operation among them brings an answer of the server. -/
def Silent (ops : List Operation) : Prop :=
  ∀ op ∈ ops, ∀ outcome, op.brings? = some outcome → ¬ IsAnswer outcome

theorem silent_nil : Silent [] := fun _ hop => absurd hop List.not_mem_nil

theorem silent_singleton {op : Operation}
    (h : ∀ outcome, op.brings? = some outcome → ¬ IsAnswer outcome) : Silent [op] := by
  intro other hother
  rw [List.mem_singleton.mp hother]
  exact h

theorem Silent.append {ops more : List Operation} (h : Silent ops) (h' : Silent more) :
    Silent (ops ++ more) := by
  intro op hop
  rcases List.mem_append.mp hop with hop | hop
  · exact h op hop
  · exact h' op hop

/-- The operation that a response leads to. -/
def answering (id : RequestId) : RpcOutcome → Operation
  | .ok result => .resolve id result
  | .error error => .reject id error

theorem answering_fate? (target : RequestId) (rpc : RpcOutcome) (id : RequestId) (serial : Nat) :
    (answering target rpc).fate? id serial =
      if target = id then some (.fulfilled (rpc.mapError .rpc)) else none := by
  cases rpc <;> rfl

namespace Ledger

variable {l : Ledger} {op : Operation} {serial : Nat} {outcome : Outcome}

theorem performAll_append (l : Ledger) (ops more : List Operation) :
    l.performAll (ops ++ more) = (l.performAll ops).performAll more := List.foldl_append

/-- Whatever is delivered was delivered before, or the operation brings it to a registration
in the table. -/
theorem delivered_perform (h : l.Consistent)
    (after : (l.perform op).1.table.delivery serial = .fulfilled outcome) :
    l.table.delivery serial = .fulfilled outcome ∨ ∃ call ∈ l.table.pending,
      call.serial = serial ∧ op.fate? call.id serial = some (.fulfilled outcome) := by
  have effect := perform_effect h.table op
  generalize l.perform op = result at effect after
  cases effect with
  | nothing => exact .inl after
  | registered _ done =>
    rw [delivery_register done] at after
    by_cases new : serial = l.table.nextSerial
    · rw [if_pos new] at after
      cases after
    · rw [if_neg new] at after
      exact .inl after
  | @settled call outcome' member fate =>
    by_cases same : serial = call.serial
    · have brought : ((l.table.erase call.id).deliver call (.fulfilled outcome')).delivery
          call.serial = .fulfilled outcome' := delivery_deliver_self (h.table.given call member) _
      rw [same, brought] at after
      cases after
      exact .inr ⟨call, member, same.symm, by rw [same]; exact fate⟩
    · rw [delivery_deliver_of_ne same] at after
      exact .inl after
  | taken => exact .inl after
  | drained asked =>
    by_cases inside : ∃ call ∈ l.table.pending, call.serial = serial
    · obtain ⟨call, member, same⟩ := inside
      rw [← same, h.table.delivery_drain member] at after
      cases after
      exact .inr ⟨call, member, same, by rw [asked]; rfl⟩
    · rw [delivery_drain_of_not_mem fun call member same => inside ⟨call, member, same⟩] at after
      exact .inl after
  | @dropped call _ member =>
    by_cases same : serial = call.serial
    · rw [same, delivery_deliver_self (h.known call member)] at after
      cases after
    · rw [delivery_deliver_of_ne same] at after
      exact .inl after

/-- What a registration has come to stays. -/
theorem delivery_perform (h : l.Consistent) (made : serial < l.table.nextSerial)
    (settled : l.table.delivery serial ≠ .waiting) :
    (l.perform op).1.table.delivery serial = l.table.delivery serial := by
  -- calls in the table, and those that are kept, still wait
  have apart {call : PendingCall} (waits : l.table.delivery call.serial = .waiting) :
      serial ≠ call.serial := by
    intro same
    rw [same] at settled
    exact settled waits
  have effect := perform_effect h.table op
  generalize l.perform op = result at effect ⊢
  cases effect with
  | nothing | taken => rfl
  | registered _ done => exact (delivery_register done).trans (if_neg (Nat.ne_of_lt made))
  | settled member => exact delivery_deliver_of_ne (apart (h.table.waiting _ member)) _ _
  | drained =>
    exact delivery_drain_of_not_mem fun call member same =>
      apart (h.table.waiting call member) same.symm
  | dropped _ member => exact delivery_deliver_of_ne (apart (h.kept _ member)) _ _

theorem nextSerial_perform (h : l.Consistent) :
    l.table.nextSerial ≤ (l.perform op).1.table.nextSerial := by
  have effect := perform_effect h.table op
  generalize l.perform op = result at effect ⊢
  cases effect with
  | nothing | taken => exact Nat.le_refl _
  | registered _ done =>
    rw [nextSerial_register done]
    exact Nat.le_succ _
  | settled | dropped => exact Nat.le_of_eq (nextSerial_deliver ..).symm
  | drained => exact Nat.le_of_eq (nextSerial_drain ..).symm

theorem nextSerial_performAll (h : l.Consistent) (ops : List Operation) :
    l.table.nextSerial ≤ (l.performAll ops).table.nextSerial := by
  induction ops generalizing l with
  | nil => exact Nat.le_refl _
  | cons op rest ih => exact Nat.le_trans (nextSerial_perform h) (ih (h.perform op))

theorem delivery_performAll (h : l.Consistent) (made : serial < l.table.nextSerial)
    (settled : l.table.delivery serial ≠ .waiting) (ops : List Operation) :
    (l.performAll ops).table.delivery serial = l.table.delivery serial := by
  induction ops generalizing l with
  | nil => rfl
  | cons op rest ih =>
    have same : (l.perform op).1.table.delivery serial = _ := delivery_perform h made settled
    have later := ih (h.perform op) (Nat.lt_of_lt_of_le made (nextSerial_perform h))
      (by rw [same]; exact settled)
    exact later.trans same

/-- Silent operations deliver no answer. -/
theorem delivered_performAll (h : l.Consistent) {ops : List Operation} (silent : Silent ops)
    (answer : IsAnswer outcome)
    (after : (l.performAll ops).table.delivery serial = .fulfilled outcome) :
    l.table.delivery serial = .fulfilled outcome := by
  induction ops generalizing l with
  | nil => exact after
  | cons op rest ih =>
    have others : Silent rest := fun other hother => silent other (List.mem_cons_of_mem _ hother)
    rcases delivered_perform h (ih (h.perform op) others after) with before | ⟨call, -, -, fate⟩
    · exact before
    · exact absurd answer (silent op List.mem_cons_self outcome (brings?_of_fate fate))

end Ledger

end Correlator

end LspClient
