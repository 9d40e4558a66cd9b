import Mathlib.Data.List.Induction
import LspClient.Proofs.Correlator.Ledger

/-!
# Every registration is settled once

`status_perform` shows that an operation does to every registration what its fate says,
and that a registration which is not pending stays as it is. Along a run what has become of
a registration is therefore the fate that the first operation which concerns it carries,
however often its id was used again (`Ledger.status_performAll`). `exactly_once` puts the
consequences together.
-/

namespace LspClient.Correlator

/-! ## What an operation makes of a registration -/

theorem Status.ofDelivery_ne_pending (delivery : Delivery) :
    Status.ofDelivery delivery ≠ .pending := by
  cases delivery <;> exact nofun

/-- A fate that does not come leaves every status as it is. -/
@[simp] theorem Status.meet_none (s : Status) : s.meet none = s := by
  cases s <;> rfl

/-- Only a pending registration meets a fate. -/
theorem Status.meet_of_ne {s : Status} (h : s ≠ .pending) (fate? : Option Status) :
    s.meet fate? = s := by
  cases s with
  | pending => exact absurd rfl h
  | fulfilled _ => rfl
  | discarded => rfl

/-- No fate leaves a registration pending. -/
theorem Operation.fate?_ne_pending {op : Operation} {id : RequestId} {serial : Nat}
    {fate : Status} (h : op.fate? id serial = some fate) : fate ≠ .pending := by
  rintro rfl
  unfold fate? at h
  split at h <;> (try split at h) <;> cases h

namespace Ledger

theorem status_of_mem {l : Ledger} {call : PendingCall} (member : call ∈ l.table.pending) :
    l.status call.serial = .pending := by
  unfold status
  rw [if_pos]
  rw [List.any_eq_true]
  exact ⟨call, member, beq_self_eq_true _⟩

theorem status_of_not_mem {l : Ledger} {serial : Nat}
    (outside : ∀ call ∈ l.table.pending, call.serial ≠ serial) :
    l.status serial = .ofDelivery (l.table.delivery serial) := by
  unfold status
  rw [if_neg]
  rw [List.any_eq_true]
  rintro ⟨call, member, same⟩
  exact outside call member (eq_of_beq same)

/-- A registration is pending exactly if its call is in the table. -/
theorem status_eq_pending_iff {l : Ledger} {serial : Nat} :
    l.status serial = .pending ↔ ∃ call ∈ l.table.pending, call.serial = serial := by
  constructor
  · intro hpending
    by_contra outside
    rw [status_of_not_mem fun call member same => outside ⟨call, member, same⟩] at hpending
    exact Status.ofDelivery_ne_pending _ hpending
  · rintro ⟨call, member, rfl⟩
    exact status_of_mem member

/-- The status depends on nothing but the table's entry and what was delivered. -/
private theorem status_congr {l m : Ledger} {serial : Nat}
    (entry : (∃ call ∈ m.table.pending, call.serial = serial) ↔
      ∃ call ∈ l.table.pending, call.serial = serial)
    (delivered : m.table.delivery serial = l.table.delivery serial) :
    m.status serial = l.status serial := by
  by_cases inside : ∃ call ∈ l.table.pending, call.serial = serial
  · rw [status_eq_pending_iff.mpr inside, status_eq_pending_iff.mpr (entry.mpr inside)]
  · rw [status_of_not_mem fun call member same => inside ⟨call, member, same⟩,
      status_of_not_mem fun call member same => inside (entry.mp ⟨call, member, same⟩), delivered]

/-- A registration is left alone if its entry and what was delivered stay, and if the
operation does not concern it as long as it is pending. -/
private theorem status_meet_of_congr {l m : Ledger} {serial : Nat} {fate? : Option Status}
    (entry : (∃ call ∈ m.table.pending, call.serial = serial) ↔
      ∃ call ∈ l.table.pending, call.serial = serial)
    (delivered : m.table.delivery serial = l.table.delivery serial)
    (unconcerned : l.status serial = .pending → fate? = none) :
    m.status serial = (l.status serial).meet fate? := by
  rw [status_congr entry delivered]
  by_cases hpending : l.status serial = .pending
  · rw [unconcerned hpending, Status.meet_none]
  · rw [Status.meet_of_ne hpending]

section

variable {l : Ledger} {serial : Nat}

/-- The id of a call in the table is the id of its registration. -/
theorem Consistent.id_eq (h : l.Consistent) {call : PendingCall} {id : RequestId}
    (member : call ∈ l.table.pending) (made : l.ids[call.serial]? = some id) : call.id = id :=
  Option.some.inj ((h.named call member).symm.trans made)

/-- Taking out one call leaves the entries of all other registrations. -/
private theorem exists_serial_erase_iff (h : l.Consistent) {call : PendingCall}
    (member : call ∈ l.table.pending) (apart : serial ≠ call.serial) :
    (∃ other ∈ (l.table.erase call.id).pending, other.serial = serial) ↔
      ∃ other ∈ l.table.pending, other.serial = serial := by
  constructor
  · rintro ⟨other, hother, same⟩
    exact ⟨other, (mem_pending_erase.mp hother).1, same⟩
  · rintro ⟨other, hother, rfl⟩
    refine ⟨other, mem_pending_erase.mpr ⟨hother, fun hid => apart ?_⟩, rfl⟩
    rw [h.table.eq_of_id hother member hid]

/-- A registration is left alone by those that come later. -/
private theorem status_register {id : RequestId} {method : String} {now : Nat}
    {next : Correlator} (done : l.table.register id method now = .ok next)
    (bounded : serial < l.table.nextSerial) :
    ({ l with table := next, ids := l.ids ++ [id] } : Ledger).status serial = l.status serial := by
  refine status_congr ?_ ((delivery_register done).trans (if_neg (Nat.ne_of_lt bounded)))
  constructor
  · rintro ⟨call, member, same⟩
    rcases (mem_register done).mp member with old | rfl
    · exact ⟨call, old, same⟩
    · exact absurd same.symm (Nat.ne_of_lt bounded)
  · rintro ⟨call, member, same⟩
    exact ⟨call, (mem_register done).mpr (.inl member), same⟩

/-- Draining fails every registration that is pending. -/
private theorem status_drain (h : l.Consistent) (serial : Nat) :
    ({ l with table := l.table.drain } : Ledger).status serial =
      (l.status serial).meet (some (.fulfilled (.error .connectionClosed))) := by
  have nobody : ∀ call ∈ l.table.drain.pending, call.serial ≠ serial := by
    intro call member
    rw [pending_drain] at member
    exact absurd member List.not_mem_nil
  rw [status_of_not_mem nobody]
  by_cases inside : ∃ call ∈ l.table.pending, call.serial = serial
  · obtain ⟨call, member, rfl⟩ := inside
    rw [status_of_mem member, h.table.delivery_drain member]
    rfl
  · have outside : ∀ call ∈ l.table.pending, call.serial ≠ serial :=
      fun call member same => inside ⟨call, member, same⟩
    rw [status_of_not_mem outside, delivery_drain_of_not_mem outside,
      Status.meet_of_ne (Status.ofDelivery_ne_pending _)]

/-- Dropping a call that was taken out before discards it for good. -/
private theorem status_drop (h : l.Consistent) {call : PendingCall} (member : call ∈ l.kept)
    (bounded : serial < l.table.nextSerial) :
    ({ l with
        table := l.table.deliver call .discarded
        kept := l.kept.filter (·.serial != call.serial) } : Ledger).status serial =
      l.status serial := by
  by_cases same : serial = call.serial
  · subst same
    rw [status_of_not_mem (h.outside call member), h.kept call member]
    refine (status_of_not_mem ?_).trans ?_
    · exact h.outside call member
    · show _ = Status.ofDelivery .discarded
      exact congrArg Status.ofDelivery (delivery_deliver_self bounded _)
  · exact status_congr Iff.rfl (delivery_deliver_of_ne same _ _)

/-- An operation does to every registration what its fate says: the registration takes it
if it is pending, and stays as it is otherwise. -/
theorem status_perform (h : l.Consistent) (op : Operation) {id : RequestId}
    (made : l.ids[serial]? = some id) :
    (l.perform op).1.status serial = (l.status serial).meet (op.fate? id serial) := by
  have bounded : serial < l.table.nextSerial := by
    rw [← h.counted]
    exact (List.getElem?_eq_some_iff.mp made).1
  -- who is not taken out is not concerned
  have alone : ∀ {call : PendingCall}, call ∈ l.table.pending → serial ≠ call.serial →
      (∀ other ∈ l.table.pending, other ≠ call → op.fate? other.id other.serial = none) →
      l.status serial = .pending → op.fate? id serial = none := by
    intro call member apart hnone hpending
    obtain ⟨other, hother, rfl⟩ := status_eq_pending_iff.mp hpending
    rw [← h.id_eq hother made]
    exact hnone other hother fun same => apart (congrArg PendingCall.serial same)
  have effect := perform_effect h.table op
  generalize l.perform op = after at effect ⊢
  cases effect with
  | nothing nobody =>
    refine status_meet_of_congr Iff.rfl rfl fun hpending => ?_
    obtain ⟨call, member, rfl⟩ := status_eq_pending_iff.mp hpending
    rw [← h.id_eq member made]
    exact nobody call member
  | registered asked done =>
    rw [asked]
    exact (status_register done bounded).trans (Status.meet_none _).symm
  | @settled call outcome member fate hnone =>
    by_cases same : serial = call.serial
    · subst same
      rw [status_of_mem member, ← h.id_eq member made, fate,
        status_of_not_mem (h.table.serial_ne_of_mem_erase member)]
      exact congrArg Status.ofDelivery (delivery_deliver_self bounded _)
    · exact status_meet_of_congr (exists_serial_erase_iff h member same)
        (delivery_deliver_of_ne same _ _) (alone member same hnone)
  | @taken call member fate hnone =>
    by_cases same : serial = call.serial
    · subst same
      rw [status_of_mem member, ← h.id_eq member made, fate,
        status_of_not_mem (h.table.serial_ne_of_mem_erase member)]
      exact congrArg Status.ofDelivery (h.table.waiting call member)
    · exact status_meet_of_congr (exists_serial_erase_iff h member same) rfl
        (alone member same hnone)
  | drained asked =>
    rw [asked]
    exact status_drain h serial
  | dropped asked member =>
    rw [asked]
    exact (status_drop h member bounded).trans (Status.meet_none _).symm

end

/-! ## What a status shows -/

/-- Table and deliveries show the status of a registration. -/
theorem shows_status {l : Ledger} (h : l.Consistent) {serial : Nat}
    (made : serial < l.ids.length) : l.Shows serial (l.status serial) := by
  by_cases inside : ∃ call ∈ l.table.pending, call.serial = serial
  · rw [status_eq_pending_iff.mpr inside]
    refine ⟨inside, ?_⟩
    obtain ⟨call, member, rfl⟩ := inside
    exact h.table.waiting call member
  · have outside : ∀ call ∈ l.table.pending, call.serial ≠ serial :=
      fun call member same => inside ⟨call, member, same⟩
    rw [status_of_not_mem outside]
    have notKept : ∀ {delivery}, l.table.delivery serial = delivery → delivery ≠ .waiting →
        ∀ call ∈ l.kept, call.serial ≠ serial := by
      rintro delivery hdelivery hne call member rfl
      exact hne (hdelivery.symm.trans (h.kept call member))
    cases hdelivery : l.table.delivery serial with
    | waiting =>
      refine ⟨outside, .inl ⟨?_, hdelivery⟩⟩
      exact (h.waits serial (h.counted ▸ made) hdelivery).resolve_left inside
    | fulfilled outcome => exact ⟨outside, hdelivery⟩
    | discarded => exact ⟨outside, .inr ⟨notKept hdelivery nofun, hdelivery⟩⟩

/-- Table and deliveries show no other status. -/
theorem eq_status_of_shows {l : Ledger} {serial : Nat} {s : Status} (h : l.Shows serial s) :
    s = l.status serial := by
  cases s with
  | pending => exact (status_eq_pending_iff.mpr h.1).symm
  | fulfilled outcome => rw [status_of_not_mem h.1, h.2]; rfl
  | discarded =>
    rw [status_of_not_mem h.1]
    rcases h.2 with ⟨-, hdelivery⟩ | ⟨-, hdelivery⟩
    · rw [hdelivery]; rfl
    · rw [hdelivery]; rfl

/-- What a handle gives follows from the status of its registration. -/
theorem outcome?_eq_observed {l : Ledger} (h : l.Consistent) {serial : Nat}
    (made : serial < l.ids.length) :
    l.table.outcome? serial = l.observed serial (l.status serial) := by
  have shown := shows_status h made
  unfold outcome?
  cases hstatus : l.status serial with
  | pending =>
    rw [hstatus] at shown
    rw [shown.2]
    rfl
  | fulfilled outcome =>
    rw [hstatus] at shown
    rw [shown.2]
    rfl
  | discarded =>
    rw [hstatus] at shown
    rcases shown.2 with ⟨⟨call, member, same⟩, hdelivery⟩ | ⟨gone, hdelivery⟩
    · rw [hdelivery, observed, if_pos (List.any_eq_true.mpr ⟨call, member, by simp [same]⟩)]
      rfl
    · rw [hdelivery, observed, if_neg]
      · rfl
      · rw [List.any_eq_true]
        rintro ⟨call, member, same⟩
        exact gone call member (eq_of_beq same)

/-- An operation that is asked to remove one registration answers true exactly if it takes
one out of the table. -/
theorem answer_iff_removed {l : Ledger} (h : l.Consistent) {op : Operation}
    (asked : op.removesOne = true) :
    (l.perform op).2 = true ↔
      ∃! serial, l.status serial = .pending ∧ (l.perform op).1.status serial ≠ .pending := by
  have unconcerned : ∀ {call}, call ∈ l.table.pending →
      op.fate? call.id call.serial = none →
      (l.perform op).1.status call.serial = .pending := by
    intro call member hnone
    rw [status_perform h op (h.named call member), status_of_mem member, hnone]
    rfl
  have concerned : ∀ {call fate}, call ∈ l.table.pending →
      op.fate? call.id call.serial = some fate →
      (∀ other ∈ l.table.pending, other ≠ call → op.fate? other.id other.serial = none) →
      ∃! serial, l.status serial = .pending ∧ (l.perform op).1.status serial ≠ .pending := by
    intro call fate member hfate alone
    refine ⟨call.serial, ⟨status_of_mem member, ?_⟩, ?_⟩
    · rw [status_perform h op (h.named call member), status_of_mem member, hfate]
      exact Operation.fate?_ne_pending hfate
    · rintro serial ⟨hpending, gone⟩
      obtain ⟨other, hother, rfl⟩ := status_eq_pending_iff.mp hpending
      by_contra apart
      refine gone (unconcerned hother (alone other hother fun same => apart ?_))
      rw [same]
  have effect := perform_effect h.table op
  generalize hafter : l.perform op = after at effect
  cases effect with
  | nothing nobody =>
    refine ⟨fun answer => Bool.noConfusion answer, ?_⟩
    rintro ⟨serial, ⟨hpending, gone⟩, -⟩
    exact absurd hpending gone
  | registered asked' _ => rw [asked'] at asked; cases asked
  | settled member fate alone => exact ⟨fun _ => hafter ▸ concerned member fate alone, fun _ => rfl⟩
  | taken member fate alone => exact ⟨fun _ => hafter ▸ concerned member fate alone, fun _ => rfl⟩
  | drained asked' => rw [asked'] at asked; cases asked
  | dropped asked' _ => rw [asked'] at asked; cases asked

/-- An operation that finds nothing changes nothing. -/
theorem perform_of_answer_false {l : Ledger} (h : l.Consistent) {op : Operation}
    (answer : (l.perform op).2 = false) : (l.perform op).1 = l := by
  have effect := perform_effect h.table op
  generalize l.perform op = after at effect answer ⊢
  cases effect with
  | nothing _ => rfl
  | _ => cases answer

/-- An id is in the table exactly if the latest registration under it is pending. -/
theorem contains_iff_latest_pending {l : Ledger} (h : l.Consistent) (id : RequestId) :
    l.table.contains id = true ↔
      ∃ serial, l.ids[serial]? = some id ∧
        (∀ later, serial < later → l.ids[later]? ≠ some id) ∧ l.status serial = .pending := by
  rw [contains_iff]
  constructor
  · rintro ⟨call, member, rfl⟩
    exact ⟨call.serial, h.named call member, h.latest call member, status_of_mem member⟩
  · rintro ⟨serial, made, -, hpending⟩
    obtain ⟨call, member, rfl⟩ := status_eq_pending_iff.mp hpending
    exact ⟨call, member, Option.some.inj ((h.named call member).symm.trans made)⟩

end Ledger

/-! ## Runs -/

namespace Ledger

/-- Registrations are only ever added, and none keeps its id. -/
theorem ids_perform {l : Ledger} (h : l.Consistent) (op : Operation) {id : RequestId}
    {serial : Nat} (made : l.ids[serial]? = some id) :
    (l.perform op).1.ids[serial]? = some id := by
  have effect := perform_effect h.table op
  generalize l.perform op = after at effect ⊢
  cases effect with
  | registered _ _ =>
    show (l.ids ++ [_])[serial]? = some id
    rw [List.getElem?_append_left (List.getElem?_eq_some_iff.mp made).1]
    exact made
  | _ => exact made

theorem ids_performAll {l : Ledger} (h : l.Consistent) (ops : List Operation) {id : RequestId}
    {serial : Nat} (made : l.ids[serial]? = some id) :
    (l.performAll ops).ids[serial]? = some id := by
  induction ops generalizing l with
  | nil => exact made
  | cons op rest ih => exact ih (h.perform op) (ids_perform h op made)

/-- A registration starts out pending. -/
theorem status_of_new {l : Ledger} (h : l.Consistent) {op : Operation} {id : RequestId}
    {serial : Nat} (unmade : l.ids.length ≤ serial)
    (made : (l.perform op).1.ids[serial]? = some id) :
    (l.perform op).1.status serial = .pending := by
  have effect := perform_effect h.table op
  generalize l.perform op = after at effect made ⊢
  have same : ∀ {ids : List RequestId}, ids = l.ids → ids[serial]? ≠ some id := by
    rintro ids rfl found
    exact absurd (List.getElem?_eq_some_iff.mp found).1 (Nat.not_lt_of_ge unmade)
  cases effect with
  | @registered id' method now next asked done =>
    have bound : serial < (l.ids ++ [id']).length := (List.getElem?_eq_some_iff.mp made).1
    rw [List.length_append, List.length_singleton] at bound
    have hserial : serial = l.table.nextSerial := by
      rw [← h.counted]
      omega
    rw [status_eq_pending_iff]
    refine ⟨⟨id', l.table.nextSerial, method, now⟩, ?_, hserial.symm⟩
    show _ ∈ next.pending
    rw [(register_eq_ok done).1]
    exact List.mem_append_right _ (List.mem_singleton.mpr rfl)
  | _ => exact absurd made (same rfl)

/-- Meeting fates one after another is meeting the first one that comes. -/
theorem status_meet_meet (s : Status) {op : Operation} {id : RequestId} {serial : Nat}
    (later? : Option Status) :
    (s.meet (op.fate? id serial)).meet later? = s.meet ((op.fate? id serial).or later?) := by
  cases s with
  | pending =>
    cases hfate : op.fate? id serial with
    | none => rfl
    | some fate => exact Status.meet_of_ne (Operation.fate?_ne_pending hfate) later?
  | fulfilled _ => rfl
  | discarded => rfl

/-- What has become of a registration is the first fate that came to it. -/
theorem status_performAll {l : Ledger} (h : l.Consistent) (ops : List Operation)
    {id : RequestId} {serial : Nat} (made : l.ids[serial]? = some id) :
    (l.performAll ops).status serial =
      (l.status serial).meet (ops.findSome? (·.fate? id serial)) := by
  induction ops generalizing l with
  | nil =>
    rw [List.findSome?_nil, Status.meet_none]
    rfl
  | cons op rest ih =>
    show ((l.perform op).1.performAll rest).status serial = _
    rw [ih (h.perform op) (ids_perform h op made), status_perform h op made,
      status_meet_meet, List.findSome?_cons]
    cases op.fate? id serial <;> rfl

end Ledger

theorem run_append (ops later : List Operation) :
    run (ops ++ later) = (run ops).performAll later :=
  List.foldl_append

/-- Every run leads to a consistent ledger. -/
theorem consistent_run (ops : List Operation) : (run ops).Consistent :=
  Ledger.consistent_empty.performAll ops

/-! ## The removal of a registration -/

/-- What was pending once has been registered. -/
theorem lt_length_ids_of_pending {ops : List Operation} {place serial : Nat}
    (h : (run (ops.take place)).status serial = .pending) : serial < (run ops).ids.length := by
  obtain ⟨call, member, rfl⟩ := Ledger.status_eq_pending_iff.mp h
  have named := (consistent_run (ops.take place)).named call member
  rw [← List.take_append_drop place ops, run_append]
  exact (List.getElem?_eq_some_iff.mp
    (Ledger.ids_performAll (consistent_run _) (ops.drop place) named)).1

theorem run_concat (ops : List Operation) (op : Operation) :
    run (ops ++ [op]) = ((run ops).perform op).1 := run_append ops [op]

/-- One more operation adds no removal but its own. -/
theorem removedAt_concat {ops : List Operation} {op : Operation} {place serial : Nat} :
    RemovedAt (ops ++ [op]) place serial ↔
      RemovedAt ops place serial ∨
        place = ops.length ∧ (run ops).status serial = .pending ∧
          ((run ops).perform op).1.status serial ≠ .pending := by
  unfold RemovedAt
  rcases Nat.lt_trichotomy place ops.length with inside | rfl | beyond
  · have hne : place ≠ ops.length := Nat.ne_of_lt inside
    rw [List.take_append_of_le_length (Nat.le_of_lt inside),
      List.take_append_of_le_length inside, List.length_append]
    simp only [hne, false_and, or_false, List.length_singleton]
    constructor
    · rintro ⟨before, -, after⟩
      exact ⟨before, inside, after⟩
    · rintro ⟨before, -, after⟩
      exact ⟨before, Nat.lt_succ_of_lt inside, after⟩
  · rw [List.take_append_of_le_length (Nat.le_refl _), List.take_length,
      List.take_of_length_le (by rw [List.length_append]; exact Nat.le_refl _), run_concat,
      List.length_append]
    simp
  · have hne : place ≠ ops.length := (Nat.ne_of_lt beyond).symm
    have hle : ¬ place < (ops ++ [op]).length := by
      rw [List.length_append, List.length_singleton]
      omega
    have hle' : ¬ place < ops.length := Nat.not_lt_of_gt beyond
    simp only [hne, hle, hle', false_and, and_false, or_false]

/-- A registration that has just been made was never removed. -/
private theorem not_removedAt_of_new {ops : List Operation} {op : Operation} {serial : Nat}
    (new : ¬ serial < (run ops).ids.length) (place : Nat) :
    ¬ RemovedAt (ops ++ [op]) place serial := by
  intro removed
  rcases removedAt_concat.mp removed with ⟨hpending, -, -⟩ | ⟨-, hpending, -⟩
  · exact new (lt_length_ids_of_pending hpending)
  · rw [← List.take_length (l := ops)] at hpending
    exact new (lt_length_ids_of_pending hpending)

/-- The last operation removes a registration that was pending. -/
private theorem removedAt_last {ops : List Operation} {op : Operation} {id : RequestId}
    {serial : Nat} {fate : Status} (made : (run ops).ids[serial]? = some id)
    (hpending : (run ops).status serial = .pending) (hfate : op.fate? id serial = some fate) :
    RemovedAt (ops ++ [op]) ops.length serial ∧ (run (ops ++ [op])).status serial = fate := by
  have hstatus := Ledger.status_perform (consistent_run ops) op made
  rw [hpending, hfate] at hstatus
  have gone : ((run ops).perform op).1.status serial ≠ .pending := by
    rw [hstatus]
    exact Operation.fate?_ne_pending hfate
  exact ⟨removedAt_concat.mpr (.inr ⟨rfl, hpending, gone⟩), by rw [run_concat, hstatus]; rfl⟩

/-- Along a run a registration is pending and was never removed; or it was removed once,
by an operation that concerns it, and has come to what that operation carries. -/
theorem removed_once (ops : List Operation) {id : RequestId} {serial : Nat}
    (made : (run ops).ids[serial]? = some id) :
    ((run ops).status serial = .pending ∧ ∀ place, ¬ RemovedAt ops place serial) ∨
      ∃ place op, ops[place]? = some op ∧ RemovedAt ops place serial ∧
        (∀ other, RemovedAt ops other serial → other = place) ∧
        op.fate? id serial = some ((run ops).status serial) := by
  induction ops using List.reverseRecOn with
  | nil => exact absurd made (by simp [run, Ledger.performAll])
  | append_singleton ops op ih =>
    by_cases old : serial < (run ops).ids.length
    · have before : (run ops).ids[serial]? = some id := by
        rw [← made, run_concat,
          Ledger.ids_perform (consistent_run ops) op (List.getElem?_eq_getElem old)]
        exact List.getElem?_eq_getElem old
      have hstatus := Ledger.status_perform (consistent_run ops) op before
      rcases ih before with ⟨hpending, never⟩ | ⟨place, done, hdone, hremoved, hunique, hfate⟩
      · cases hfate : op.fate? id serial with
        | none =>
          rw [hpending, hfate] at hstatus
          left
          refine ⟨by rw [run_concat]; exact hstatus, fun place removed => ?_⟩
          rcases removedAt_concat.mp removed with earlier | ⟨-, -, gone⟩
          · exact never place earlier
          · exact gone hstatus
        | some fate =>
          right
          obtain ⟨removed, after⟩ := removedAt_last before hpending hfate
          refine ⟨ops.length, op, List.getElem?_concat_length, removed, fun other again => ?_, ?_⟩
          · rcases removedAt_concat.mp again with earlier | ⟨last, -⟩
            · exact absurd earlier (never other)
            · exact last
          · rw [hfate, after]
      · -- who is settled stays so
        have settled : (run ops).status serial ≠ .pending := Operation.fate?_ne_pending hfate
        rw [Status.meet_of_ne settled] at hstatus
        right
        have inside : place < ops.length := (List.getElem?_eq_some_iff.mp hdone).1
        refine ⟨place, done, ?_, removedAt_concat.mpr (.inl hremoved), fun other removed => ?_, ?_⟩
        · rw [List.getElem?_append_left inside]
          exact hdone
        · rcases removedAt_concat.mp removed with earlier | ⟨-, hpending, -⟩
          · exact hunique other earlier
          · exact absurd hpending settled
        · rw [run_concat, hstatus]
          exact hfate
    · -- the last operation has made the registration
      left
      refine ⟨?_, not_removedAt_of_new old⟩
      rw [run_concat] at made ⊢
      exact Ledger.status_of_new (consistent_run ops) (Nat.le_of_not_lt old) made

/-- **Every registration is settled once.** After any operations on any ids and serial
numbers: every registration has exactly one status, and its handle gives what belongs to
it; it is pending and was never removed, or one single operation removed it, whose outcome
it has; a registration that is settled stays so; an operation that names a registration
tells whether it removed one, and changes nothing if not; and an id is in the table exactly
if the latest registration under it is pending. -/
theorem exactly_once (ops : List Operation) :
    (∀ serial < (run ops).ids.length,
      (run ops).Shows serial ((run ops).status serial) ∧
        (∀ s, (run ops).Shows serial s → s = (run ops).status serial) ∧
        (run ops).table.outcome? serial = (run ops).observed serial ((run ops).status serial)) ∧
    (∀ serial id, (run ops).ids[serial]? = some id →
      ((run ops).status serial = .pending ∧ ∀ place, ¬ RemovedAt ops place serial) ∨
        ∃ place op, ops[place]? = some op ∧ RemovedAt ops place serial ∧
          (∀ other, RemovedAt ops other serial → other = place) ∧
          op.fate? id serial = some ((run ops).status serial)) ∧
    (∀ later serial, serial < (run ops).ids.length → (run ops).status serial ≠ .pending →
      (run (ops ++ later)).status serial = (run ops).status serial) ∧
    (∀ op : Operation,
      (op.removesOne = true → (((run ops).perform op).2 = true ↔
        ∃! serial, RemovedAt (ops ++ [op]) ops.length serial)) ∧
      (((run ops).perform op).2 = false → ((run ops).perform op).1 = run ops)) ∧
    ∀ id, (run ops).table.contains id = true ↔
      ∃ serial, (run ops).ids[serial]? = some id ∧
        (∀ later, serial < later → (run ops).ids[later]? ≠ some id) ∧
        (run ops).status serial = .pending := by
  have h := consistent_run ops
  refine ⟨?_, ?_, ?_, ?_, Ledger.contains_iff_latest_pending h⟩
  · intro serial made
    exact ⟨Ledger.shows_status h made, fun _ => Ledger.eq_status_of_shows,
      Ledger.outcome?_eq_observed h made⟩
  · intro serial id made
    exact removed_once ops made
  · intro later serial made settled
    rw [run_append, Ledger.status_performAll h later (List.getElem?_eq_getElem made),
      Status.meet_of_ne settled]
  · intro op
    refine ⟨fun asked => ?_, Ledger.perform_of_answer_false h⟩
    have last : ∀ serial, RemovedAt (ops ++ [op]) ops.length serial ↔
        (run ops).status serial = .pending ∧
          ((run ops).perform op).1.status serial ≠ .pending := by
      intro serial
      rw [removedAt_concat]
      constructor
      · rintro (⟨-, inside, -⟩ | ⟨-, removed⟩)
        · exact absurd inside (Nat.lt_irrefl _)
        · exact removed
      · exact fun removed => .inr ⟨rfl, removed⟩
    simp only [last]
    exact Ledger.answer_iff_removed h asked

end LspClient.Correlator
