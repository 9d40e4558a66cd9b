import LspClient.Proofs.Correlator.Delivery

/-!
# The order of drained calls

The table does not know in which order its calls were registered: draining visits it in some
order, and then orders the calls by the times at which they were registered. That is stable, so
calls of different times come out in the order of their registration, if the clock never runs
back, and calls of one time in the order in which they were visited (`filter_oldestFirst`).

So the order of registration is found again in exactly those cases where calls of one time
happen to be visited in it, and for certain only if no two calls share a time:
`drains_oldest_first`. Their serial numbers would tell, but draining does not look at them:
`forgets_order`. What is returned apart from the order, and what becomes of the table, does not
depend on how the table is visited.
-/

namespace LspClient.Correlator

/-! ## Calls of one time -/

theorem perm_oldestFirst (calls : List PendingCall) : (oldestFirst calls).Perm calls :=
  List.mergeSort_perm _ _

private theorem time_trans (a b c : PendingCall) (ab : decide (a.issuedAt ≤ b.issuedAt) = true)
    (bc : decide (b.issuedAt ≤ c.issuedAt) = true) : decide (a.issuedAt ≤ c.issuedAt) = true :=
  decide_eq_true (Nat.le_trans (of_decide_eq_true ab) (of_decide_eq_true bc))

private theorem time_total (a b : PendingCall) :
    (decide (a.issuedAt ≤ b.issuedAt) || decide (b.issuedAt ≤ a.issuedAt)) = true := by
  rw [Bool.or_eq_true, decide_eq_true_eq, decide_eq_true_eq]
  exact Nat.le_total _ _

theorem pairwise_oldestFirst (calls : List PendingCall) :
    (oldestFirst calls).Pairwise fun a b => a.issuedAt ≤ b.issuedAt :=
  (List.pairwise_mergeSort time_trans time_total calls).imp of_decide_eq_true

/-- Calls that are visited in the order of their times stay in it. -/
theorem oldestFirst_of_pairwise {calls : List PendingCall}
    (h : calls.Pairwise fun a b => a.issuedAt ≤ b.issuedAt) : oldestFirst calls = calls :=
  List.mergeSort_of_pairwise (h.imp decide_eq_true)

/-- Calls of one time stay in the order in which they are visited. -/
theorem filter_oldestFirst (calls : List PendingCall) (time : Nat) :
    (oldestFirst calls).filter (·.issuedAt = time) = calls.filter (·.issuedAt = time) := by
  have alike : (calls.filter (·.issuedAt = time)).Pairwise
      fun a b => decide (a.issuedAt ≤ b.issuedAt) = true := by
    rw [List.pairwise_filter]
    refine List.pairwise_of_forall fun a b ha hb => decide_eq_true (Nat.le_of_eq ?_)
    rw [of_decide_eq_true ha, of_decide_eq_true hb]
  have inside : (calls.filter (·.issuedAt = time)).Sublist (oldestFirst calls) :=
    List.sublist_mergeSort time_trans time_total alike List.filter_sublist
  -- they are a part of those afterwards, of which there are as many
  have part := inside.filter (·.issuedAt = time)
  simp only [List.filter_filter, Bool.and_self] at part
  exact (part.eq_of_length ((perm_oldestFirst calls).filter _).length_eq.symm).symm

/-- What holds of calls of one time, in the order in which they stand. -/
theorem pairwise_same_iff {R : PendingCall → PendingCall → Prop} {calls : List PendingCall} :
    (calls.Pairwise fun a b => a.issuedAt = b.issuedAt → R a b) ↔
      ∀ time, (calls.filter (·.issuedAt = time)).Pairwise R := by
  simp only [List.pairwise_filter, decide_eq_true_eq]
  constructor
  · intro h time
    exact h.imp fun r ha hb => r (ha.trans hb.symm)
  · intro h
    rw [List.pairwise_iff_forall_sublist]
    intro a b within same
    exact List.pairwise_iff_forall_sublist.mp (h a.issuedAt) within rfl same.symm

/-- What holds of calls of one time in the order of visiting holds of them afterwards. -/
theorem pairwise_same_oldestFirst {R : PendingCall → PendingCall → Prop}
    {calls : List PendingCall} :
    ((oldestFirst calls).Pairwise fun a b => a.issuedAt = b.issuedAt → R a b) ↔
      calls.Pairwise fun a b => a.issuedAt = b.issuedAt → R a b := by
  simp only [pairwise_same_iff, filter_oldestFirst]

/-! ## Visiting the table -/

/-- Draining if the table is visited in this order: the calls that are returned, and the table
afterwards. -/
def drainVisiting (c : Correlator) (visited : List PendingCall) :
    List PendingCall × Correlator :=
  (oldestFirst visited,
    (oldestFirst visited).foldl (fun rest call => rest.fulfil call (.error .connectionClosed))
      { c with pending := [] })

/-- `drain` visits the table in the order of registration. -/
theorem drainVisiting_pending (c : Correlator) :
    drainVisiting c c.pending = (c.drained, c.drain) := rfl

/-- It does not count which of two calls is fulfilled first. -/
theorem fulfil_comm (c : Correlator) (a b : PendingCall) (outcome : Outcome) :
    (c.fulfil a outcome).fulfil b outcome = (c.fulfil b outcome).fulfil a outcome := by
  unfold fulfil deliver
  by_cases same : a.serial = b.serial
  · rw [same]
  · rw [List.set_comm _ _ same]

/-- The table afterwards does not depend on how it was visited. -/
theorem drainVisiting_snd {c : Correlator} {visited : List PendingCall}
    (perm : visited.Perm c.pending) : (drainVisiting c visited).2 = c.drain := by
  have calls : (oldestFirst visited).Perm c.drained :=
    (perm_oldestFirst visited).trans (perm.trans (perm_oldestFirst c.pending).symm)
  exact calls.foldl_eq' (fun a _ b _ c => fulfil_comm c a b _) _

/-! ## The clock -/

/-- What the clock shows at an operation, if that looks at it. -/
def Operation.time? : Operation → Option Nat
  | .register _ _ now => some now
  | _ => none

/-- The clock at the registrations. -/
def times (ops : List Operation) : List Nat := ops.filterMap Operation.time?

/-- The clock never runs back. -/
def Steady (ops : List Operation) : Prop := (times ops).Pairwise (· ≤ ·)

instance (ops : List Operation) : Decidable (Steady ops) :=
  inferInstanceAs (Decidable ((times ops).Pairwise (· ≤ ·)))

theorem times_concat (ops : List Operation) (op : Operation) :
    times (ops ++ [op]) = times ops ++ op.time?.toList := by
  unfold times
  rw [List.filterMap_append]
  cases h : op.time? <;> simp [h]

/-- The calls in the table show the clock in the order in which it was looked at. -/
theorem sublist_times (ops : List Operation) :
    ((run ops).table.pending.map (·.issuedAt)).Sublist (times ops) := by
  induction ops using List.reverseRecOn with
  | nil => exact List.Sublist.refl []
  | append_singleton ops op ih =>
    have longer : (times ops).Sublist (times ops ++ op.time?.toList) :=
      List.sublist_append_left _ _
    rw [times_concat, run_concat]
    have effect := Ledger.perform_effect (consistent_run ops).table op
    generalize (run ops).perform op = after at effect ⊢
    cases effect with
    | nothing | dropped => exact ih.trans longer
    | settled | taken => exact ((List.filter_sublist.map _).trans ih).trans longer
    | @registered id method now next asked done =>
      subst asked
      show (next.pending.map _).Sublist (times ops ++ [now])
      rw [(register_eq_ok done).1, List.map_append]
      exact ih.append (List.Sublist.refl [now])
    | drained =>
      show ((run ops).table.drain.pending.map _).Sublist _
      rw [pending_drain]
      exact List.nil_sublist _

theorem Steady.pairwise_pending {ops : List Operation} (steady : Steady ops) :
    (run ops).table.pending.Pairwise fun a b => a.issuedAt ≤ b.issuedAt :=
  List.pairwise_map.mp (steady.sublist (sublist_times ops))

/-! ## The order -/

section

variable {ops : List Operation} {visited : List PendingCall}

/-- The calls that draining returns if the table is visited in this order. -/
def returned (ops : List Operation) (visited : List PendingCall) : List PendingCall :=
  (drainVisiting (run ops).table visited).1

variable (perm : visited.Perm (run ops).table.pending)

include perm

theorem perm_returned : (returned ops visited).Perm (run ops).table.pending :=
  (perm_oldestFirst visited).trans perm

/-- Calls of different times come out in the order of their registration. -/
theorem pairwise_returned (steady : Steady ops) : (returned ops visited).Pairwise
    fun a b => a.issuedAt = b.issuedAt ∨ a.serial < b.serial := by
  -- whichever of two calls is the earlier one was registered first
  have pending : (run ops).table.pending.Pairwise fun a b =>
      (a.issuedAt < b.issuedAt → a.serial < b.serial) ∧
        (b.issuedAt < a.issuedAt → b.serial < a.serial) :=
    ((consistent_run ops).table.ordered.and steady.pairwise_pending).imp
      fun h => ⟨fun _ => h.1, fun back => absurd h.2 (Nat.not_le_of_lt back)⟩
  have earlier := (perm_returned perm).symm.pairwise pending fun h => ⟨h.2, h.1⟩
  refine ((pairwise_oldestFirst visited).and earlier).imp fun h => ?_
  rcases Nat.eq_or_lt_of_le h.1 with same | before
  · exact .inl same
  · exact .inr (h.2.1 before)

/-- All come out in that order exactly if those of one time are visited in it. -/
theorem returned_eq_iff (steady : Steady ops) : returned ops visited = (run ops).table.pending ↔
    visited.Pairwise fun a b => a.issuedAt = b.issuedAt → a.serial < b.serial := by
  have registered := (consistent_run ops).table.ordered
  rw [← pairwise_same_oldestFirst]
  show _ ↔ (returned ops visited).Pairwise _
  constructor
  · intro same
    rw [same]
    refine registered.imp ?_
    intro a b before _
    exact before
  · intro ties
    have ordered : (returned ops visited).Pairwise fun a b => a.serial < b.serial :=
      ((pairwise_returned perm steady).and ties).imp fun h => h.1.elim h.2 id
    exact (perm_returned perm).eq_of_pairwise
      (fun _ _ _ _ before after => absurd before (Nat.lt_asymm after)) ordered registered

end

/-- They do so however the table is visited exactly if no two calls share a time. -/
theorem forall_returned_eq_iff {ops : List Operation} (steady : Steady ops) :
    (∀ visited, visited.Perm (run ops).table.pending →
        returned ops visited = (run ops).table.pending) ↔
      (run ops).table.pending.Pairwise fun a b => a.issuedAt ≠ b.issuedAt := by
  constructor
  · intro always
    -- even when the table is visited backwards
    have backwards := (run ops).table.pending.reverse_perm
    have ties := (returned_eq_iff backwards steady).mp (always _ backwards)
    refine ((List.pairwise_reverse.mp ties).and (consistent_run ops).table.ordered).imp ?_
    intro a b h same
    exact absurd (h.1 same.symm) (Nat.lt_asymm h.2)
  · intro apart visited perm
    have apart' := perm.symm.pairwise apart fun h => h.symm
    exact (returned_eq_iff perm steady).mpr (apart'.imp fun h same => absurd same h)

/-- What draining does after a run, whatever the order in which the table is visited. -/
structure DrainsOldestFirst (ops : List Operation) : Prop where
  /-- The table has its calls in the order of their registration. -/
  registered : (run ops).table.pending.Pairwise fun a b => a.serial < b.serial
  /-- All pending calls are returned, and no other, and none twice. -/
  all : ∀ visited, visited.Perm (run ops).table.pending →
    (returned ops visited).Perm (run ops).table.pending
  once : ∀ visited, visited.Perm (run ops).table.pending →
    ((returned ops visited).map (·.serial)).Nodup
  pending : ∀ visited, visited.Perm (run ops).table.pending → ∀ serial,
    (∃ call ∈ returned ops visited, call.serial = serial) ↔ (run ops).status serial = .pending
  /-- They are ordered by the times at which they were registered. -/
  sorted : ∀ visited, visited.Perm (run ops).table.pending →
    (returned ops visited).Pairwise fun a b => a.issuedAt ≤ b.issuedAt
  /-- So calls of different times are in the order of their registration. -/
  order : Steady ops → ∀ visited, visited.Perm (run ops).table.pending →
    (returned ops visited).Pairwise fun a b => a.issuedAt = b.issuedAt ∨ a.serial < b.serial
  /-- All are exactly if those of one time are visited so, -/
  ties : Steady ops → ∀ visited, visited.Perm (run ops).table.pending →
    (returned ops visited = (run ops).table.pending ↔
      visited.Pairwise fun a b => a.issuedAt = b.issuedAt → a.serial < b.serial)
  /-- and for certain exactly if all times are different. -/
  certain : Steady ops → ((∀ visited, visited.Perm (run ops).table.pending →
      returned ops visited = (run ops).table.pending) ↔
    (run ops).table.pending.Pairwise fun a b => a.issuedAt ≠ b.issuedAt)
  /-- If the table is visited in the order of registration, all are. -/
  visited : Steady ops → drainVisiting (run ops).table (run ops).table.pending =
    ((run ops).table.pending, (run ops).table.drain)
  /-- The table is the same afterwards, and it is empty. -/
  table : ∀ visited, visited.Perm (run ops).table.pending →
    (drainVisiting (run ops).table visited).2 = (run ops).table.drain
  empty : (run ops).table.drain.isEmpty = true
  /-- Whoever was pending sees that the connection is closed. -/
  closed : ∀ serial, (run ops).status serial = .pending →
    (run ops).table.drain.delivery serial = .fulfilled (.error .connectionClosed)
  /-- Nothing else changes for anybody. -/
  settled : ∀ serial, (run ops).status serial ≠ .pending →
    (run ops).table.drain.delivery serial = (run ops).table.delivery serial

/-- **Draining returns the calls oldest first**, as far as the times of their registration tell
them apart. -/
theorem drains_oldest_first (ops : List Operation) : DrainsOldestFirst ops where
  registered := (consistent_run ops).table.ordered
  all _ := perm_returned
  once visited perm := by
    have serials := (perm_returned perm).map (·.serial)
    rw [serials.nodup_iff, List.nodup_iff_pairwise_ne, List.pairwise_map]
    exact (consistent_run ops).table.ordered.imp Nat.ne_of_lt
  pending visited perm serial := by
    rw [Ledger.status_eq_pending_iff]
    simp only [(perm_returned perm).mem_iff]
  sorted visited _ := pairwise_oldestFirst visited
  order steady _ perm := pairwise_returned perm steady
  ties steady _ perm := returned_eq_iff perm steady
  certain := forall_returned_eq_iff
  visited steady := by
    rw [drainVisiting_pending, drained, oldestFirst_of_pairwise steady.pairwise_pending]
  table _ := drainVisiting_snd
  empty := by
    unfold isEmpty
    rw [pending_drain]
    rfl
  closed serial pending := by
    obtain ⟨call, member, rfl⟩ := Ledger.status_eq_pending_iff.mp pending
    exact (consistent_run ops).table.delivery_drain member
  settled serial settled := delivery_drain_of_not_mem fun call member same =>
    settled (Ledger.status_eq_pending_iff.mpr ⟨call, member, same⟩)

/-- Of two calls that are registered within one tick of the clock, the later one may be
returned first. -/
theorem forgets_order :
    let ops : List Operation := [.register (.number 1) "a" 0, .register (.number 2) "b" 0]
    Steady ops ∧ (run ops).table.pending.map (·.id) = [.number 1, .number 2] ∧
      ∃ visited, visited.Perm (run ops).table.pending ∧
        (returned ops visited).map (·.id) = [.number 2, .number 1] := by
  intro ops
  refine ⟨by decide, rfl, (run ops).table.pending.reverse, List.reverse_perm _, ?_⟩
  have alike : (run ops).table.pending.reverse.Pairwise
      fun a b => a.issuedAt ≤ b.issuedAt := by decide
  show (oldestFirst _).map _ = _
  rw [oldestFirst_of_pairwise alike]
  rfl

end LspClient.Correlator
