import Mathlib.Data.List.Pairwise
import LspClient.Correlator

/-!
# What the table of outstanding calls keeps

`WellFormed` says that the calls stand in the order of their serial numbers, that no two
of them share an id, and that a call in the table still waits for its outcome. It holds of
the empty table, and every operation keeps it.

Removing is one thing in two parts: `erase` takes a call out of the table, `deliver` notes
what becomes of it. The lemmas `forget?_eq_some`, `abandon?_eq_some`, `settle?_eq_some`,
`answer_eq_ok` and `expire?_eq_some` bring every removal into that form, so that what the two
parts keep is proved once; in a table that is well formed they hold both ways.
-/

namespace LspClient.Correlator

/-- What holds of every table. -/
structure WellFormed (c : Correlator) : Prop where
  ordered : c.pending.Pairwise fun a b => a.serial < b.serial
  apart : c.pending.Pairwise fun a b => a.id ≠ b.id
  given : ∀ call ∈ c.pending, call.serial < c.nextSerial
  waiting : ∀ call ∈ c.pending, c.delivery call.serial = .waiting

theorem wellFormed_empty : WellFormed {} :=
  ⟨List.Pairwise.nil, List.Pairwise.nil, fun _ h => absurd h List.not_mem_nil,
    fun _ h => absurd h List.not_mem_nil⟩

/-! ## Looking up -/

theorem mem_of_find?_eq_some {c : Correlator} {id : RequestId} {call : PendingCall}
    (h : c.find? id = some call) : call ∈ c.pending ∧ call.id = id := by
  unfold find? at h
  exact ⟨List.mem_of_find?_eq_some h, by simpa using List.find?_some h⟩

/-- An id is outstanding exactly if a call in the table has it. -/
theorem contains_iff {c : Correlator} {id : RequestId} :
    c.contains id = true ↔ ∃ call ∈ c.pending, call.id = id := by
  unfold contains find?
  rw [List.find?_isSome]
  simp

/-- Two calls in the table with one id are one call. -/
theorem WellFormed.eq_of_id {c : Correlator} (wf : c.WellFormed) {a b : PendingCall}
    (ha : a ∈ c.pending) (hb : b ∈ c.pending) (same : a.id = b.id) : a = b := by
  by_contra apart
  have symm : Std.Symm (fun a b : PendingCall => a.id ≠ b.id) := ⟨fun _ _ h => h.symm⟩
  exact wf.apart.forall ha hb apart same

/-- Two calls in the table with one serial number are one call. -/
theorem WellFormed.eq_of_serial {c : Correlator} (wf : c.WellFormed) {a b : PendingCall}
    (ha : a ∈ c.pending) (hb : b ∈ c.pending) (same : a.serial = b.serial) : a = b := by
  by_contra apart
  have symm : Std.Symm (fun a b : PendingCall => a.serial ≠ b.serial) := ⟨fun _ _ h => h.symm⟩
  exact (wf.ordered.imp fun h => Nat.ne_of_lt h).forall ha hb apart same

/-- The call that is found under an id is the one in the table that has it. -/
theorem WellFormed.find?_eq_some_iff {c : Correlator} (wf : c.WellFormed) {id : RequestId}
    {call : PendingCall} : c.find? id = some call ↔ call ∈ c.pending ∧ call.id = id := by
  refine ⟨mem_of_find?_eq_some, ?_⟩
  rintro ⟨member, rfl⟩
  have found : c.contains call.id = true := contains_iff.mpr ⟨call, member, rfl⟩
  obtain ⟨other, hother⟩ := Option.isSome_iff_exists.mp found
  obtain ⟨hmem, hid⟩ := mem_of_find?_eq_some hother
  rw [hother, wf.eq_of_id hmem member hid]

/-! ## The two parts of a removal -/

@[simp] theorem mem_pending_erase {c : Correlator} {id : RequestId} {call : PendingCall} :
    call ∈ (c.erase id).pending ↔ call ∈ c.pending ∧ call.id ≠ id := by
  simp [erase]

theorem WellFormed.erase {c : Correlator} (wf : c.WellFormed) (id : RequestId) :
    (c.erase id).WellFormed where
  ordered := wf.ordered.sublist List.filter_sublist
  apart := wf.apart.sublist List.filter_sublist
  given call member := wf.given call (mem_pending_erase.mp member).1
  waiting call member := wf.waiting call (mem_pending_erase.mp member).1

/-- What becomes of a call outside the table is nothing to the table. -/
theorem WellFormed.deliver {c : Correlator} (wf : c.WellFormed) {call : PendingCall}
    (outside : ∀ other ∈ c.pending, other.serial ≠ call.serial) (delivery : Delivery) :
    (c.deliver call delivery).WellFormed where
  ordered := wf.ordered
  apart := wf.apart
  given other member := by
    rw [nextSerial_deliver]
    exact wf.given other member
  waiting other member := by
    rw [delivery_deliver_of_ne (outside other member)]
    exact wf.waiting other member

/-- A call that is taken out is outside the table. -/
theorem WellFormed.serial_ne_of_mem_erase {c : Correlator} (wf : c.WellFormed)
    {call : PendingCall} (member : call ∈ c.pending) :
    ∀ other ∈ (c.erase call.id).pending, other.serial ≠ call.serial := by
  intro other hother same
  obtain ⟨hmem, hid⟩ := mem_pending_erase.mp hother
  exact hid (congrArg PendingCall.id (wf.eq_of_serial hmem member same))

/-- A whole removal keeps the table well formed. -/
theorem WellFormed.remove {c : Correlator} (wf : c.WellFormed) {call : PendingCall}
    (member : call ∈ c.pending) (delivery : Delivery) :
    ((c.erase call.id).deliver call delivery).WellFormed :=
  (wf.erase call.id).deliver (wf.serial_ne_of_mem_erase member) delivery

/-! ## The removing operations in terms of the two parts -/

section

variable {c next rest : Correlator} {id : RequestId} {serial : Nat} {call : PendingCall}

theorem forget?_eq_some (h : c.forget? id = some (call, rest)) :
    call ∈ c.pending ∧ call.id = id ∧ rest = c.erase call.id := by
  unfold forget? at h
  obtain ⟨found, hfound, heq⟩ := Option.map_eq_some_iff.mp h
  obtain ⟨rfl, rfl⟩ := Prod.mk.inj heq
  obtain ⟨hmem, rfl⟩ := mem_of_find?_eq_some hfound
  exact ⟨hmem, rfl, rfl⟩

theorem abandon?_eq_some (h : c.abandon? id serial = some (call, rest)) :
    call ∈ c.pending ∧ call.id = id ∧ call.serial = serial ∧ rest = c.erase call.id := by
  unfold abandon? at h
  split at h
  · next found hfound =>
    split at h
    · next hserial =>
      cases h
      obtain ⟨hmem, rfl⟩ := mem_of_find?_eq_some hfound
      exact ⟨hmem, rfl, hserial, rfl⟩
    · cases h
  · cases h

theorem settle?_eq_some {outcome : Outcome} (h : c.settle? id outcome = some next) :
    ∃ call ∈ c.pending, call.id = id ∧
      next = (c.erase call.id).deliver call (.fulfilled outcome) := by
  unfold settle? at h
  obtain ⟨⟨call, rest⟩, htaken, rfl⟩ := Option.map_eq_some_iff.mp h
  obtain ⟨hmem, hid, rfl⟩ := forget?_eq_some htaken
  exact ⟨call, hmem, hid, rfl⟩

theorem answer_eq_ok {outcome : RpcOutcome} (h : c.answer id outcome = .ok next) :
    ∃ call ∈ c.pending, call.id = id ∧
      next = (c.erase call.id).deliver call (.fulfilled (outcome.mapError .rpc)) := by
  unfold answer at h
  split at h
  · next hsettled =>
    cases h
    exact settle?_eq_some hsettled
  · cases h

/-- Nobody is answered if the id is not in the table. -/
theorem answer_of_absent (absent : c.contains id = false) (outcome : RpcOutcome) :
    c.answer id outcome = .error ⟨id⟩ := by
  have unknown : c.find? id = none := Option.isNone_iff_eq_none.mp
    (Option.isSome_eq_false_iff.mp absent)
  unfold answer settle? forget?
  rw [unknown]
  rfl

theorem expire?_eq_some {error : CallError} (h : c.expire? id serial error = some next) :
    ∃ call ∈ c.pending, call.id = id ∧ call.serial = serial ∧
      next = (c.erase call.id).deliver call (.fulfilled (.error error)) := by
  unfold expire? at h
  obtain ⟨⟨call, rest⟩, htaken, rfl⟩ := Option.map_eq_some_iff.mp h
  obtain ⟨hmem, hid, hserial, rfl⟩ := abandon?_eq_some htaken
  exact ⟨call, hmem, hid, hserial, rfl⟩

variable (wf : c.WellFormed)

include wf

theorem WellFormed.forget?_eq_some_iff :
    c.forget? id = some (call, rest) ↔
      call ∈ c.pending ∧ call.id = id ∧ rest = c.erase call.id := by
  refine ⟨forget?_eq_some, ?_⟩
  rintro ⟨hmem, rfl, rfl⟩
  unfold forget?
  rw [wf.find?_eq_some_iff.mpr ⟨hmem, rfl⟩]
  rfl

theorem WellFormed.abandon?_eq_some_iff :
    c.abandon? id serial = some (call, rest) ↔
      call ∈ c.pending ∧ call.id = id ∧ call.serial = serial ∧ rest = c.erase call.id := by
  refine ⟨abandon?_eq_some, ?_⟩
  rintro ⟨hmem, rfl, hserial, rfl⟩
  unfold abandon?
  rw [wf.find?_eq_some_iff.mpr ⟨hmem, rfl⟩]
  exact if_pos hserial

theorem WellFormed.settle?_eq_some_iff {outcome : Outcome} :
    c.settle? id outcome = some next ↔
      ∃ call ∈ c.pending, call.id = id ∧
        next = (c.erase call.id).deliver call (.fulfilled outcome) := by
  refine ⟨settle?_eq_some, ?_⟩
  rintro ⟨call, hmem, hid, rfl⟩
  unfold settle?
  rw [wf.forget?_eq_some_iff.mpr ⟨hmem, hid, rfl⟩]
  rfl

theorem WellFormed.answer_eq_ok_iff {outcome : RpcOutcome} :
    c.answer id outcome = .ok next ↔
      ∃ call ∈ c.pending, call.id = id ∧
        next = (c.erase call.id).deliver call (.fulfilled (outcome.mapError .rpc)) := by
  refine ⟨answer_eq_ok, fun h => ?_⟩
  unfold answer
  rw [wf.settle?_eq_some_iff.mpr h]

theorem WellFormed.expire?_eq_some_iff {error : CallError} :
    c.expire? id serial error = some next ↔
      ∃ call ∈ c.pending, call.id = id ∧ call.serial = serial ∧
        next = (c.erase call.id).deliver call (.fulfilled (.error error)) := by
  refine ⟨expire?_eq_some, ?_⟩
  rintro ⟨call, hmem, hid, hserial, rfl⟩
  unfold expire?
  rw [wf.abandon?_eq_some_iff.mpr ⟨hmem, hid, hserial, rfl⟩]
  rfl

end

/-! ## Registering -/

/-- A call can be registered exactly if its id is not outstanding. -/
theorem register_isOk_iff {c : Correlator} {id : RequestId} {method : String} {now : Nat} :
    (∃ next, c.register id method now = .ok next) ↔ c.contains id = false := by
  unfold register
  cases c.contains id <;> simp

/-- Registering adds one call to the table. -/
theorem mem_register {c next : Correlator} {id : RequestId} {method : String} {now : Nat}
    (h : c.register id method now = .ok next) {call : PendingCall} :
    call ∈ next.pending ↔ call ∈ c.pending ∨ call = ⟨id, c.nextSerial, method, now⟩ := by
  rw [(register_eq_ok h).1, List.mem_append, List.mem_singleton]

theorem delivery_register {c next : Correlator} {id : RequestId} {method : String} {now : Nat}
    (h : c.register id method now = .ok next) {serial : Nat} :
    next.delivery serial = if serial = c.nextSerial then .waiting else c.delivery serial := by
  obtain ⟨-, hdeliveries⟩ := register_eq_ok h
  unfold delivery nextSerial
  rw [hdeliveries]
  split
  · next heq =>
    rw [heq, List.getElem?_concat_length]
    rfl
  · next hne =>
    rcases Nat.lt_or_gt_of_ne hne with hlt | hgt
    · rw [List.getElem?_append_left hlt]
    · rw [List.getElem?_eq_none (by rw [List.length_append]; exact hgt),
        List.getElem?_eq_none (Nat.le_of_lt hgt)]

theorem nextSerial_register {c next : Correlator} {id : RequestId} {method : String} {now : Nat}
    (h : c.register id method now = .ok next) : next.nextSerial = c.nextSerial + 1 := by
  unfold nextSerial
  rw [(register_eq_ok h).2, List.length_append]
  rfl

theorem WellFormed.register {c next : Correlator} (wf : c.WellFormed) {id : RequestId}
    {method : String} {now : Nat} (h : c.register id method now = .ok next) :
    next.WellFormed := by
  have fresh : c.contains id = false := register_isOk_iff.mp ⟨next, h⟩
  obtain ⟨hpending, -⟩ := register_eq_ok h
  constructor
  · rw [hpending, List.pairwise_append]
    refine ⟨wf.ordered, List.pairwise_singleton .., ?_⟩
    intro a ha b hb
    rw [List.mem_singleton.mp hb]
    exact wf.given a ha
  · rw [hpending, List.pairwise_append]
    refine ⟨wf.apart, List.pairwise_singleton .., ?_⟩
    intro a ha b hb same
    rw [List.mem_singleton.mp hb] at same
    rw [contains_iff.mpr ⟨a, ha, same⟩] at fresh
    cases fresh
  · intro call member
    rw [nextSerial_register h]
    rcases (mem_register h).mp member with old | rfl
    · exact Nat.lt_succ_of_lt (wf.given call old)
    · exact Nat.lt_succ_self _
  · intro call member
    rw [delivery_register h]
    rcases (mem_register h).mp member with old | rfl
    · rw [if_neg (Nat.ne_of_lt (wf.given call old))]
      exact wf.waiting call old
    · exact if_pos rfl

/-! ## Draining -/

theorem mem_drained {c : Correlator} {call : PendingCall} :
    call ∈ c.drained ↔ call ∈ c.pending := by
  unfold drained oldestFirst
  exact List.mem_mergeSort

private theorem foldl_fulfil (outcome : Outcome) :
    ∀ (calls : List PendingCall) (c : Correlator),
      let final := calls.foldl (fun rest call => rest.fulfil call outcome) c
      final.pending = c.pending ∧ final.nextSerial = c.nextSerial ∧
      (∀ serial, (∀ call ∈ calls, call.serial ≠ serial) →
        final.delivery serial = c.delivery serial) ∧
      ∀ call ∈ calls, call.serial < c.nextSerial →
        final.delivery call.serial = .fulfilled outcome
  | [], _ => ⟨rfl, rfl, fun _ _ => rfl, fun _ h => absurd h List.not_mem_nil⟩
  | first :: rest, c => by
    obtain ⟨hpending, hnext, hother, hself⟩ := foldl_fulfil outcome rest (c.fulfil first outcome)
    have hsame : (c.fulfil first outcome).nextSerial = c.nextSerial := nextSerial_deliver ..
    rw [List.foldl_cons]
    refine ⟨hpending, hnext.trans hsame, ?_, ?_⟩
    · intro serial apart
      rw [hother serial fun call h => apart call (List.mem_cons_of_mem _ h)]
      exact delivery_deliver_of_ne (apart first List.mem_cons_self).symm c _
    · intro call member bound
      by_cases later : ∃ other ∈ rest, other.serial = call.serial
      · obtain ⟨other, hmem, heq⟩ := later
        rw [← heq]
        exact hself other hmem (by rw [heq, hsame]; exact bound)
      · rcases List.mem_cons.mp member with rfl | hmem
        · rw [hother call.serial fun other h heq => later ⟨other, h, heq⟩]
          exact delivery_deliver_self bound _
        · exact absurd ⟨call, hmem, rfl⟩ later

@[simp] theorem pending_drain (c : Correlator) : c.drain.pending = [] :=
  (foldl_fulfil _ c.drained { c with pending := [] }).1

@[simp] theorem nextSerial_drain (c : Correlator) : c.drain.nextSerial = c.nextSerial :=
  (foldl_fulfil _ c.drained { c with pending := [] }).2.1

/-- Draining is nothing to a registration that is not in the table. -/
theorem delivery_drain_of_not_mem {c : Correlator} {serial : Nat}
    (h : ∀ call ∈ c.pending, call.serial ≠ serial) :
    c.drain.delivery serial = c.delivery serial :=
  (foldl_fulfil _ c.drained { c with pending := [] }).2.2.1 serial
    fun call member => h call (mem_drained.mp member)

/-- Draining fails every call in the table. -/
theorem WellFormed.delivery_drain {c : Correlator} (wf : c.WellFormed) {call : PendingCall}
    (member : call ∈ c.pending) :
    c.drain.delivery call.serial = .fulfilled (.error .connectionClosed) :=
  (foldl_fulfil _ c.drained { c with pending := [] }).2.2.2 call (mem_drained.mpr member)
    (wf.given call member)

theorem wellFormed_drain (c : Correlator) : c.drain.WellFormed := by
  have nothing : ∀ call, call ∉ c.drain.pending := by
    intro call
    rw [pending_drain]
    exact List.not_mem_nil
  constructor
  · rw [pending_drain]
    exact List.Pairwise.nil
  · rw [pending_drain]
    exact List.Pairwise.nil
  · intro call member
    exact absurd member (nothing call)
  · intro call member
    exact absurd member (nothing call)

end LspClient.Correlator
