import LspClient.Proofs.Correlator.Table

/-!
# Ledgers: a table and everything that was asked of it

An `Operation` is anything that can be asked of a table, with any ids and serial numbers;
a `Ledger` is the table with the calls that were taken out of it and are still kept, and
with the id of every registration so far. `run` performs operations one after another.

`Operation.fate?` is the reference for what operations do: it says what an operation would
make of a registration that is pending, by looking at nothing but the two of them.
`perform_effect` brings everything that an operation can do into six forms, in terms of
fates, and `Consistent` is what each of the six forms keeps; it ties the table, the calls
that were taken out and the ids of the registrations together.
-/

namespace LspClient.Correlator

/-- What can be asked of a table. -/
inductive Operation where
  | register (id : RequestId) (method : String) (now : Nat)
  | resolve (id : RequestId) (result : Json)
  | reject (id : RequestId) (error : RpcError)
  | cancel (id : RequestId)
  | forget (id : RequestId)
  | expire (id : RequestId) (serial : Nat) (error : CallError)
  | abandon (id : RequestId) (serial : Nat)
  | drain
  /-- Drops a call that was taken out by `forget` or `abandon` and kept since. -/
  | drop (serial : Nat)

/-- What a registration has come to. -/
inductive Status where
  | pending
  | fulfilled (outcome : Outcome)
  | discarded

/-- What a registration outside the table has come to. -/
def Status.ofDelivery : Delivery → Status
  | .fulfilled outcome => .fulfilled outcome
  | _ => .discarded

/-- What comes of a status at an operation with this fate: only a pending registration
meets it. -/
def Status.meet : Status → Option Status → Status
  | .pending, fate? => fate?.getD .pending
  | settled, _ => settled

/-- A table, the calls that were taken out of it and not dropped yet, and the ids of all
registrations in the order of their serial numbers. -/
structure Ledger where
  table : Correlator := {}
  kept : List PendingCall := []
  ids : List RequestId := []

namespace Ledger

/-- What a registration has come to: it is pending as long as its call is in the table. -/
def status (l : Ledger) (serial : Nat) : Status :=
  if l.table.pending.any (·.serial == serial) then .pending
  else .ofDelivery (l.table.delivery serial)

/-- What table and deliveries look like for a registration with this status. A call that
was taken out and is still kept has no delivery yet. -/
def Shows (l : Ledger) (serial : Nat) : Status → Prop
  | .pending =>
    (∃ call ∈ l.table.pending, call.serial = serial) ∧ l.table.delivery serial = .waiting
  | .fulfilled outcome =>
    (∀ call ∈ l.table.pending, call.serial ≠ serial) ∧
      l.table.delivery serial = .fulfilled outcome
  | .discarded =>
    (∀ call ∈ l.table.pending, call.serial ≠ serial) ∧
      ((∃ call ∈ l.kept, call.serial = serial) ∧ l.table.delivery serial = .waiting ∨
        (∀ call ∈ l.kept, call.serial ≠ serial) ∧ l.table.delivery serial = .discarded)

/-- What the handle of a registration with this status gives: nothing as long as the call
exists, and that the connection is closed once a call was dropped without an outcome. -/
def observed (l : Ledger) (serial : Nat) : Status → Option Outcome
  | .pending => none
  | .fulfilled outcome => some outcome
  | .discarded =>
    if l.kept.any (·.serial == serial) then none else some (.error .connectionClosed)

/-- Goes on with a new table and answers true; or stays as it is and answers false. -/
def replace (l : Ledger) : Option Correlator → Ledger × Bool
  | some table => ({ l with table }, true)
  | none => (l, false)

/-- Keeps a call that was taken out and answers true; or stays and answers false. -/
def keep (l : Ledger) : Option (PendingCall × Correlator) → Ledger × Bool
  | some (call, table) => ({ l with table, kept := call :: l.kept }, true)
  | none => (l, false)

/-- Performs an operation; also tells whether it found what it was asked for. -/
def perform (l : Ledger) : Operation → Ledger × Bool
  | .register id method now =>
    match l.table.register id method now with
    | .ok table => ({ l with table, ids := l.ids ++ [id] }, true)
    | .error _ => (l, false)
  | .resolve id result => l.replace (l.table.resolve id result).toOption
  | .reject id error => l.replace (l.table.reject id error).toOption
  | .cancel id => l.replace (l.table.cancel? id)
  | .forget id => l.keep (l.table.forget? id)
  | .expire id serial error => l.replace (l.table.expire? id serial error)
  | .abandon id serial => l.keep (l.table.abandon? id serial)
  | .drain => ({ l with table := l.table.drain }, true)
  | .drop serial =>
    match l.kept.find? (·.serial == serial) with
    | some call =>
      ({ l with
          table := l.table.discard call
          kept := l.kept.filter (·.serial != serial) }, true)
    | none => (l, false)

/-- Performs operations one after another. -/
def performAll (l : Ledger) (ops : List Operation) : Ledger :=
  ops.foldl (fun l op => (l.perform op).1) l

end Ledger

/-- What operations lead to from the empty table. -/
def run (ops : List Operation) : Ledger := Ledger.performAll {} ops

/-- What an operation makes of a registration under `id` that is pending, if the operation
concerns it at all. -/
def Operation.fate? (op : Operation) (id : RequestId) (serial : Nat) : Option Status :=
  match op with
  | .resolve target result => if target = id then some (.fulfilled (.ok result)) else none
  | .reject target error => if target = id then some (.fulfilled (.error (.rpc error))) else none
  | .cancel target => if target = id then some (.fulfilled (.error .cancelled)) else none
  | .forget target => if target = id then some .discarded else none
  | .expire target number error =>
    if target = id ∧ number = serial then some (.fulfilled (.error error)) else none
  | .abandon target number => if target = id ∧ number = serial then some .discarded else none
  | .drain => some (.fulfilled (.error .connectionClosed))
  | .register .. | .drop _ => none

/-- The operation at this place of the run took the registration out of the table. -/
def RemovedAt (ops : List Operation) (place serial : Nat) : Prop :=
  (run (ops.take place)).status serial = .pending ∧
    place < ops.length ∧ (run (ops.take (place + 1))).status serial ≠ .pending

/-- The operations that are asked to remove one registration, and tell whether they did. -/
def Operation.removesOne : Operation → Bool
  | .resolve .. | .reject .. | .cancel _ | .forget _ | .expire .. | .abandon .. => true
  | .register .. | .drain | .drop _ => false

/-! ## What one operation can do -/

namespace Ledger

/-- All that an operation can do, with its answer: nothing; make a registration; take one
call out of the table and fulfil or keep it; fulfil all calls; or drop a call that was kept.
Whoever is taken out is the only pending call that the operation concerns. -/
inductive Effect (l : Ledger) (op : Operation) : Ledger × Bool → Prop
  | nothing (nobody : ∀ call ∈ l.table.pending, op.fate? call.id call.serial = none) :
    Effect l op (l, false)
  | registered {id : RequestId} {method : String} {now : Nat} {next : Correlator}
      (asked : op = .register id method now)
      (done : l.table.register id method now = .ok next) :
    Effect l op ({ l with table := next, ids := l.ids ++ [id] }, true)
  | settled {call : PendingCall} {outcome : Outcome} (member : call ∈ l.table.pending)
      (fate : op.fate? call.id call.serial = some (.fulfilled outcome))
      (alone : ∀ other ∈ l.table.pending, other ≠ call → op.fate? other.id other.serial = none) :
    Effect l op
      ({ l with table := (l.table.erase call.id).deliver call (.fulfilled outcome) }, true)
  | taken {call : PendingCall} (member : call ∈ l.table.pending)
      (fate : op.fate? call.id call.serial = some .discarded)
      (alone : ∀ other ∈ l.table.pending, other ≠ call → op.fate? other.id other.serial = none) :
    Effect l op ({ l with table := l.table.erase call.id, kept := call :: l.kept }, true)
  | drained (asked : op = .drain) : Effect l op ({ l with table := l.table.drain }, true)
  | dropped {call : PendingCall} (asked : op = .drop call.serial) (member : call ∈ l.kept) :
    Effect l op
      ({ l with
          table := l.table.deliver call .discarded
          kept := l.kept.filter (·.serial != call.serial) }, true)

section

variable {l : Ledger} {op : Operation} {target : RequestId}

/-- An operation that concerns calls under one id only concerns one call in the table. -/
private theorem fate_of_other {concerns : RequestId → Nat → Prop}
    [∀ id serial, Decidable (concerns id serial)] (wf : l.table.WellFormed) {fate : Status}
    (hfate : ∀ id serial, op.fate? id serial = if concerns id serial then some fate else none)
    (named : ∀ id serial, concerns id serial → id = target) {call : PendingCall}
    (member : call ∈ l.table.pending) (hcall : concerns call.id call.serial) :
    ∀ other ∈ l.table.pending, other ≠ call → op.fate? other.id other.serial = none := by
  intro other hother apart
  rw [hfate, if_neg]
  intro hconcerns
  have same : other.id = call.id := (named _ _ hconcerns).trans (named _ _ hcall).symm
  exact apart (wf.eq_of_id hother member same)

private theorem effect_replace (concerns : RequestId → Nat → Prop)
    [∀ id serial, Decidable (concerns id serial)] (wf : l.table.WellFormed) {outcome : Outcome}
    {table? : Option Correlator}
    (hfate : ∀ id serial,
      op.fate? id serial = if concerns id serial then some (.fulfilled outcome) else none)
    (named : ∀ id serial, concerns id serial → id = target)
    (htable : ∀ next, table? = some next ↔ ∃ call ∈ l.table.pending,
      concerns call.id call.serial ∧
        next = (l.table.erase call.id).deliver call (.fulfilled outcome)) :
    Effect l op (l.replace table?) := by
  cases hcase : table? with
  | none =>
    refine .nothing fun call member => ?_
    rw [hfate, if_neg]
    intro hconcerns
    have found := (htable _).mpr ⟨call, member, hconcerns, rfl⟩
    rw [hcase] at found
    cases found
  | some next =>
    obtain ⟨call, member, hconcerns, rfl⟩ := (htable next).mp hcase
    exact .settled member (by rw [hfate, if_pos hconcerns])
      (fate_of_other wf hfate named member hconcerns)

private theorem effect_keep (concerns : RequestId → Nat → Prop)
    [∀ id serial, Decidable (concerns id serial)] (wf : l.table.WellFormed)
    {taken? : Option (PendingCall × Correlator)}
    (hfate : ∀ id serial,
      op.fate? id serial = if concerns id serial then some .discarded else none)
    (named : ∀ id serial, concerns id serial → id = target)
    (htaken : ∀ call rest, taken? = some (call, rest) ↔ call ∈ l.table.pending ∧
      concerns call.id call.serial ∧ rest = l.table.erase call.id) :
    Effect l op (l.keep taken?) := by
  cases hcase : taken? with
  | none =>
    refine .nothing fun call member => ?_
    rw [hfate, if_neg]
    intro hconcerns
    have found := (htaken call _).mpr ⟨member, hconcerns, rfl⟩
    rw [hcase] at found
    cases found
  | some pair =>
    obtain ⟨call, rest⟩ := pair
    obtain ⟨member, hconcerns, rfl⟩ := (htaken call rest).mp hcase
    exact .taken member (by rw [hfate, if_pos hconcerns])
      (fate_of_other wf hfate named member hconcerns)

end

private theorem toOption_eq_some_iff {ε α : Type} {x : Except ε α} {a : α} :
    x.toOption = some a ↔ x = .ok a := by
  cases x <;> simp [Except.toOption]

/-- Every operation does one of those things. -/
theorem perform_effect {l : Ledger} (wf : l.table.WellFormed) (op : Operation) :
    Effect l op (l.perform op) := by
  cases op with
  | register id method now =>
    rw [perform]
    cases hcase : l.table.register id method now with
    | ok next => exact .registered rfl hcase
    | error _ => exact Effect.nothing fun _ _ => rfl
  | resolve target result =>
    refine effect_replace (fun id _ => target = id) wf (fun _ _ => rfl)
      (fun _ _ h => h.symm) fun next => ?_
    rw [toOption_eq_some_iff]
    unfold resolve
    rw [wf.answer_eq_ok_iff]
    simp only [eq_comm]
    rfl
  | reject target error =>
    refine effect_replace (fun id _ => target = id) wf (fun _ _ => rfl)
      (fun _ _ h => h.symm) fun next => ?_
    rw [toOption_eq_some_iff]
    unfold reject
    rw [wf.answer_eq_ok_iff]
    simp only [eq_comm]
    rfl
  | cancel target =>
    refine effect_replace (fun id _ => target = id) wf (fun _ _ => rfl)
      (fun _ _ h => h.symm) fun next => ?_
    unfold cancel?
    rw [wf.settle?_eq_some_iff]
    simp only [eq_comm]
  | forget target =>
    refine effect_keep (fun id _ => target = id) wf (fun _ _ => rfl)
      (fun _ _ h => h.symm) fun call rest => ?_
    rw [wf.forget?_eq_some_iff]
    simp only [eq_comm]
  | expire target number error =>
    refine effect_replace (fun id serial => target = id ∧ number = serial) wf
      (fun _ _ => rfl) (fun _ _ h => h.1.symm) fun next => ?_
    rw [wf.expire?_eq_some_iff]
    simp only [eq_comm, and_assoc]
  | abandon target number =>
    refine effect_keep (fun id serial => target = id ∧ number = serial) wf
      (fun _ _ => rfl) (fun _ _ h => h.1.symm) fun call rest => ?_
    rw [wf.abandon?_eq_some_iff]
    simp only [eq_comm, and_assoc]
  | drain => exact .drained rfl
  | drop serial =>
    rw [perform]
    cases hcase : l.kept.find? (·.serial == serial) with
    | none => exact Effect.nothing fun _ _ => rfl
    | some call =>
      have hserial : call.serial = serial := by simpa using List.find?_some hcase
      subst hserial
      exact .dropped rfl (List.mem_of_find?_eq_some hcase)

/-! ## What every operation keeps -/

/-- What holds of every ledger that operations lead to. -/
structure Consistent (l : Ledger) : Prop where
  table : l.table.WellFormed
  counted : l.ids.length = l.table.nextSerial
  named : ∀ call ∈ l.table.pending, l.ids[call.serial]? = some call.id
  latest : ∀ call ∈ l.table.pending, ∀ later, call.serial < later →
    l.ids[later]? ≠ some call.id
  outside : ∀ call ∈ l.kept, ∀ other ∈ l.table.pending, other.serial ≠ call.serial
  known : ∀ call ∈ l.kept, call.serial < l.table.nextSerial
  kept : ∀ call ∈ l.kept, l.table.delivery call.serial = .waiting
  waits : ∀ serial < l.table.nextSerial, l.table.delivery serial = .waiting →
    (∃ call ∈ l.table.pending, call.serial = serial) ∨ ∃ call ∈ l.kept, call.serial = serial

theorem consistent_empty : Consistent {} where
  table := wellFormed_empty
  counted := rfl
  named _ h := absurd h List.not_mem_nil
  latest _ h := absurd h List.not_mem_nil
  outside _ h := absurd h List.not_mem_nil
  known _ h := absurd h List.not_mem_nil
  kept _ h := absurd h List.not_mem_nil
  waits _ h := absurd h (Nat.not_lt_zero _)

/-- The id of a new registration is not that of a call in the table, and comes after all. -/
private theorem latest_register {l : Ledger} (h : l.Consistent) {id : RequestId}
    (apart : ∀ call ∈ l.table.pending, call.id ≠ id) {call : PendingCall}
    (member : call ∈ l.table.pending) {later : Nat} (after : call.serial < later) :
    (l.ids ++ [id])[later]? ≠ some call.id := by
  rcases Nat.lt_or_ge later l.ids.length with inside | beyond
  · rw [List.getElem?_append_left inside]
    exact h.latest call member later after
  · rw [List.getElem?_append_right beyond, List.getElem?_singleton]
    split
    · exact fun same => apart call member (Option.some.inj same).symm
    · exact fun same => nomatch same

private theorem Consistent.registered {l : Ledger} (h : l.Consistent) {id : RequestId}
    {method : String} {now : Nat} {next : Correlator}
    (done : l.table.register id method now = .ok next) :
    Consistent { l with table := next, ids := l.ids ++ [id] } where
  table := h.table.register done
  counted := by
    rw [List.length_append, h.counted, nextSerial_register done]
    rfl
  named call member := by
    rcases (mem_register done).mp member with old | rfl
    · have inside : call.serial < l.ids.length := by
        rw [h.counted]
        exact h.table.given call old
      rw [List.getElem?_append_left inside]
      exact h.named call old
    · show (l.ids ++ [id])[l.table.nextSerial]? = some id
      rw [← h.counted]
      exact List.getElem?_concat_length
  latest call member later after := by
    have fresh : l.table.contains id = false := register_isOk_iff.mp ⟨next, done⟩
    have apart : ∀ call ∈ l.table.pending, call.id ≠ id := by
      intro call member same
      rw [contains_iff.mpr ⟨call, member, same⟩] at fresh
      cases fresh
    rcases (mem_register done).mp member with old | rfl
    · exact latest_register h apart old after
    · show (l.ids ++ [id])[later]? ≠ some id
      rw [List.getElem?_eq_none]
      · exact fun same => nomatch same
      · rw [List.length_append, h.counted]
        exact after
  outside call member other hother := by
    rcases (mem_register done).mp hother with old | rfl
    · exact h.outside call member other old
    · exact (Nat.ne_of_lt (h.known call member)).symm
  known call member := by
    rw [nextSerial_register done]
    exact Nat.lt_succ_of_lt (h.known call member)
  kept call member := by
    show next.delivery call.serial = .waiting
    rw [delivery_register done, if_neg (Nat.ne_of_lt (h.known call member))]
    exact h.kept call member
  waits serial bounded waiting := by
    by_cases new : serial = l.table.nextSerial
    · exact .inl ⟨_, (mem_register done).mpr (.inr rfl), new.symm⟩
    · have old : serial < l.table.nextSerial := by
        have : serial < l.table.nextSerial + 1 := nextSerial_register done ▸ bounded
        omega
      have before : l.table.delivery serial = .waiting := by
        rw [← waiting]
        show _ = next.delivery serial
        rw [delivery_register done, if_neg new]
      rcases h.waits serial old before with ⟨call, member, same⟩ | found
      · exact .inl ⟨call, (mem_register done).mpr (.inl member), same⟩
      · exact .inr found

private theorem Consistent.settled {l : Ledger} (h : l.Consistent) {call : PendingCall}
    (member : call ∈ l.table.pending) (outcome : Outcome) :
    Consistent
      { l with table := (l.table.erase call.id).deliver call (.fulfilled outcome) } where
  table := h.table.remove member _
  counted := by
    rw [nextSerial_deliver]
    exact h.counted
  named other hother := h.named other (mem_pending_erase.mp hother).1
  latest other hother := h.latest other (mem_pending_erase.mp hother).1
  outside other hother third hthird :=
    h.outside other hother third (mem_pending_erase.mp hthird).1
  known other hother := by
    rw [nextSerial_deliver]
    exact h.known other hother
  kept other hother := by
    rw [delivery_deliver_of_ne (h.outside other hother call member).symm]
    exact h.kept other hother
  waits serial bounded waiting := by
    rw [nextSerial_deliver] at bounded
    by_cases same : serial = call.serial
    · have done : ((l.table.erase call.id).deliver call (.fulfilled outcome)).delivery
          call.serial = .fulfilled outcome := delivery_deliver_self (h.table.given call member) _
      rw [same, done] at waiting
      cases waiting
    · rw [delivery_deliver_of_ne same] at waiting
      rcases h.waits serial bounded waiting with ⟨other, hother, rfl⟩ | found
      · refine .inl ⟨other, mem_pending_erase.mpr ⟨hother, fun hid => same ?_⟩, rfl⟩
        rw [h.table.eq_of_id hother member hid]
      · exact .inr found

private theorem Consistent.taken {l : Ledger} (h : l.Consistent) {call : PendingCall}
    (member : call ∈ l.table.pending) :
    Consistent { l with table := l.table.erase call.id, kept := call :: l.kept } where
  table := h.table.erase call.id
  counted := h.counted
  named other hother := h.named other (mem_pending_erase.mp hother).1
  latest other hother := h.latest other (mem_pending_erase.mp hother).1
  outside other hother third hthird := by
    rcases List.mem_cons.mp hother with rfl | old
    · exact h.table.serial_ne_of_mem_erase member third hthird
    · exact h.outside other old third (mem_pending_erase.mp hthird).1
  known other hother := by
    rcases List.mem_cons.mp hother with rfl | old
    · exact h.table.given other member
    · exact h.known other old
  kept other hother := by
    rcases List.mem_cons.mp hother with rfl | old
    · exact h.table.waiting other member
    · exact h.kept other old
  waits serial bounded waiting := by
    rcases h.waits serial bounded waiting with ⟨other, hother, rfl⟩ | ⟨other, hother, same⟩
    · by_cases hid : other.id = call.id
      · exact .inr ⟨call, List.mem_cons_self, by rw [h.table.eq_of_id hother member hid]⟩
      · exact .inl ⟨other, mem_pending_erase.mpr ⟨hother, hid⟩, rfl⟩
    · exact .inr ⟨other, List.mem_cons_of_mem _ hother, same⟩

private theorem Consistent.drained {l : Ledger} (h : l.Consistent) :
    Consistent { l with table := l.table.drain } := by
  have nothing : ∀ {call}, call ∉ l.table.drain.pending := by
    intro call
    rw [pending_drain]
    exact List.not_mem_nil
  constructor
  · exact wellFormed_drain _
  · rw [nextSerial_drain]
    exact h.counted
  · exact fun call member => absurd member nothing
  · exact fun call member => absurd member nothing
  · exact fun call _ other hother => absurd hother nothing
  · intro call member
    rw [nextSerial_drain]
    exact h.known call member
  · intro call member
    show l.table.drain.delivery call.serial = .waiting
    rw [delivery_drain_of_not_mem fun other hother => h.outside call member other hother]
    exact h.kept call member
  · intro serial bounded waiting
    rw [nextSerial_drain] at bounded
    by_cases inside : ∃ call ∈ l.table.pending, call.serial = serial
    · obtain ⟨call, member, rfl⟩ := inside
      rw [h.table.delivery_drain member] at waiting
      cases waiting
    · have outside : ∀ call ∈ l.table.pending, call.serial ≠ serial :=
        fun call member same => inside ⟨call, member, same⟩
      rw [delivery_drain_of_not_mem outside] at waiting
      exact .inr ((h.waits serial bounded waiting).resolve_left inside)

private theorem Consistent.dropped {l : Ledger} (h : l.Consistent) {call : PendingCall}
    (member : call ∈ l.kept) :
    Consistent
      { l with
        table := l.table.deliver call .discarded
        kept := l.kept.filter (·.serial != call.serial) } := by
  have split : ∀ {other}, other ∈ l.kept.filter (·.serial != call.serial) →
      other ∈ l.kept ∧ other.serial ≠ call.serial := by
    intro other hother
    simpa using hother
  constructor
  · exact h.table.deliver (h.outside call member) _
  · rw [nextSerial_deliver]
    exact h.counted
  · exact h.named
  · exact h.latest
  · exact fun other hother => h.outside other (split hother).1
  · intro other hother
    rw [nextSerial_deliver]
    exact h.known other (split hother).1
  · intro other hother
    show (l.table.deliver call .discarded).delivery other.serial = .waiting
    rw [delivery_deliver_of_ne (split hother).2]
    exact h.kept other (split hother).1
  · intro serial bounded waiting
    rw [nextSerial_deliver] at bounded
    by_cases same : serial = call.serial
    · rw [same, delivery_deliver_self (h.known call member)] at waiting
      cases waiting
    · rw [delivery_deliver_of_ne same] at waiting
      rcases h.waits serial bounded waiting with found | ⟨other, hother, rfl⟩
      · exact .inl found
      · exact .inr ⟨other, by simp [hother, same], rfl⟩

theorem Consistent.perform {l : Ledger} (h : l.Consistent) (op : Operation) :
    (l.perform op).1.Consistent := by
  have effect := perform_effect h.table op
  generalize l.perform op = after at effect ⊢
  cases effect with
  | nothing _ => exact h
  | registered _ done => exact h.registered done
  | settled member _ _ => exact h.settled member _
  | taken member _ _ => exact h.taken member
  | drained _ => exact h.drained
  | dropped _ member => exact h.dropped member

theorem Consistent.performAll {l : Ledger} (h : l.Consistent) (ops : List Operation) :
    (l.performAll ops).Consistent := by
  induction ops generalizing l with
  | nil => exact h
  | cons op rest ih => exact ih (h.perform op)

end Ledger

end LspClient.Correlator
