import Mathlib.Data.List.Nodup
import Mathlib.Data.List.Range
import LspClient.Proofs.Correlator.Delivery

/-!
# A late timer spares the later calls

A timer that fires, and a caller that stops waiting, name the registration that they are about
by its id and its serial number (`Operation.named?`). The id may have been used again by then, the
serial number never is: the serial numbers of a run count its registrations (`made_eq`). So such
an operation takes out the registration that it names, as long as that is pending, and nothing
else ever (`spares_later`).
-/

namespace LspClient.Correlator

/-- A registration that was accepted: its id, and the serial number that it was given. -/
structure Registration where
  id : RequestId
  serial : Nat
  deriving DecidableEq

/-- The registration that an operation names by its serial number. -/
def Operation.named? : Operation → Option Registration
  | .expire id serial _ | .abandon id serial => some ⟨id, serial⟩
  | _ => none

namespace Ledger

/-- The registration that an operation makes. -/
def made? (l : Ledger) : Operation → Option Registration
  | .register id method now =>
    match l.table.register id method now with
    | .ok _ => some ⟨id, l.table.nextSerial⟩
    | .error _ => none
  | _ => none

/-- The registrations that operations make one after another. -/
def made (l : Ledger) : List Operation → List Registration
  | [] => []
  | op :: rest => (l.made? op).toList ++ (l.perform op).1.made rest

theorem made_concat (l : Ledger) (ops : List Operation) (op : Operation) :
    l.made (ops ++ [op]) = l.made ops ++ ((l.performAll ops).made? op).toList := by
  induction ops generalizing l with
  | nil => exact List.append_nil _
  | cons first rest ih =>
    show (l.made? first).toList ++ (l.perform first).1.made (rest ++ [op]) = _
    rw [ih, ← List.append_assoc]
    rfl

/-- An operation adds the id of the registration that it makes, if it makes one. -/
theorem ids_perform_eq (l : Ledger) (op : Operation) :
    (l.perform op).1.ids = l.ids ++ ((l.made? op).map Registration.id).toList := by
  have replaced : ∀ table?, (l.replace table?).1.ids = l.ids := by
    rintro (_ | _) <;> rfl
  have keeps : ∀ taken?, (l.keep taken?).1.ids = l.ids := by
    rintro (_ | _) <;> rfl
  cases op with
  | register id method now =>
    simp only [perform, made?]
    cases l.table.register id method now with
    | ok => rfl
    | error => exact (List.append_nil _).symm
  | resolve => exact (replaced _).trans (List.append_nil _).symm
  | reject => exact (replaced _).trans (List.append_nil _).symm
  | cancel => exact (replaced _).trans (List.append_nil _).symm
  | forget => exact (keeps _).trans (List.append_nil _).symm
  | expire => exact (replaced _).trans (List.append_nil _).symm
  | abandon => exact (keeps _).trans (List.append_nil _).symm
  | drain => exact (List.append_nil _).symm
  | drop serial =>
    rw [perform]
    cases l.kept.find? (·.serial == serial) <;> exact (List.append_nil _).symm

/-- The next serial number is the one that is given. -/
theorem made?_serial {l : Ledger} {op : Operation} {new : Registration}
    (made : l.made? op = some new) : new.serial = l.table.nextSerial := by
  unfold made? at made
  split at made
  · split at made
    · cases made
      rfl
    · cases made
  · cases made

end Ledger

/-- The registrations of a run, in their order. -/
def made (ops : List Operation) : List Registration := Ledger.made {} ops

/-- The serial numbers of a run count its registrations. -/
theorem made_eq (ops : List Operation) :
    made ops = (run ops).ids.mapIdx fun serial id => ⟨id, serial⟩ := by
  induction ops using List.reverseRecOn with
  | nil => rfl
  | append_singleton ops op ih =>
    show Ledger.made {} (ops ++ [op]) = _
    rw [Ledger.made_concat, run_concat, Ledger.ids_perform_eq]
    show made ops ++ ((run ops).made? op).toList = _
    rw [ih]
    cases new : (run ops).made? op with
    | none => simp
    | some registration =>
      have serial : registration.serial = (run ops).ids.length :=
        (Ledger.made?_serial new).trans (consistent_run ops).counted.symm
      simp only [Option.map_some, Option.toList_some, List.mapIdx_concat, ← serial]

/-- A registration of a run is the one at the place of its serial number. -/
theorem mem_made {ops : List Operation} {registration : Registration} :
    registration ∈ made ops ↔ (run ops).ids[registration.serial]? = some registration.id := by
  rw [made_eq, List.mem_mapIdx]
  constructor
  · rintro ⟨serial, bounded, rfl⟩
    exact List.getElem?_eq_getElem bounded
  · intro found
    obtain ⟨bounded, same⟩ := List.getElem?_eq_some_iff.mp found
    exact ⟨registration.serial, bounded, by rw [same]⟩

theorem map_serial_made (ops : List Operation) :
    (made ops).map Registration.serial = List.range (made ops).length := by
  rw [made_eq]
  apply List.ext_getElem <;> simp

/-! ## What an operation that names a registration does -/

/-- An operation that names a registration concerns that one and no other. -/
theorem Operation.fate?_eq_none_of_named {op : Operation} {named : Registration} {id : RequestId}
    {serial : Nat} (names : op.named? = some named) (other : named ≠ ⟨id, serial⟩) :
    op.fate? id serial = none := by
  unfold named? at names
  split at names
  · cases names
    exact if_neg fun same => other (by rw [same.1, same.2])
  · cases names
    exact if_neg fun same => other (by rw [same.1, same.2])
  · cases names

/-- Nor does it ask for anything but a removal. -/
theorem Operation.removesOne_of_named {op : Operation} {named : Registration}
    (names : op.named? = some named) : op.removesOne = true := by
  unfold named? at names
  split at names
  · rfl
  · rfl
  · cases names

namespace Ledger

variable {l : Ledger}

/-- The table without a call is the table without its serial number. -/
theorem erase_eq_filter (h : l.Consistent) {call : PendingCall} (member : call ∈ l.table.pending) :
    l.table.erase call.id =
      { l.table with pending := l.table.pending.filter (·.serial != call.serial) } := by
  unfold erase
  congr 1
  refine List.filter_congr fun other hother => ?_
  by_cases same : other = call
  · rw [same, bne_self_eq_false, bne_self_eq_false]
  · have ids : other.id ≠ call.id := fun eq => same (h.table.eq_of_id hother member eq)
    have serials : other.serial ≠ call.serial :=
      fun eq => same (h.table.eq_of_serial hother member eq)
    rw [bne_iff_ne.mpr ids, bne_iff_ne.mpr serials]

/-- A pending call that is named is taken out alone, and fails. -/
theorem perform_expire (h : l.Consistent) {call : PendingCall} (member : call ∈ l.table.pending)
    (error : CallError) :
    l.perform (.expire call.id call.serial error) =
      ({ l with table :=
          { pending := l.table.pending.filter (·.serial != call.serial)
            deliveries := l.table.deliveries.set call.serial (.fulfilled (.error error)) } },
        true) := by
  have expired : l.table.expire? call.id call.serial error =
      some ((l.table.erase call.id).deliver call (.fulfilled (.error error))) :=
    h.table.expire?_eq_some_iff.mpr ⟨call, member, rfl, rfl, rfl⟩
  rw [perform, expired, erase_eq_filter h member]
  rfl

/-- A pending call that is named is taken out alone, and kept. -/
theorem perform_abandon (h : l.Consistent) {call : PendingCall}
    (member : call ∈ l.table.pending) :
    l.perform (.abandon call.id call.serial) =
      ({ l with
          table := { l.table with
            pending := l.table.pending.filter (·.serial != call.serial) }
          kept := call :: l.kept },
        true) := by
  have abandoned := h.table.abandon?_eq_some_iff.mpr ⟨member, rfl, rfl, rfl⟩
  rw [perform, abandoned, erase_eq_filter h member]
  rfl

/-- Nothing happens if the call that is named is not in the table. -/
theorem perform_of_named (h : l.Consistent) {op : Operation} {named : Registration}
    (names : op.named? = some named)
    (absent : ∀ call ∈ l.table.pending, named ≠ ⟨call.id, call.serial⟩) :
    l.perform op = (l, false) := by
  have unconcerned : ∀ call ∈ l.table.pending, op.fate? call.id call.serial = none :=
    fun call member => Operation.fate?_eq_none_of_named names (absent call member)
  have asked := Operation.removesOne_of_named names
  have effect := perform_effect h.table op
  generalize l.perform op = after at effect ⊢
  cases effect with
  | nothing _ => rfl
  | registered register _ => rw [register] at asked; cases asked
  | settled member fate _ => rw [unconcerned _ member] at fate; cases fate
  | taken member fate _ => rw [unconcerned _ member] at fate; cases fate
  | drained drain => rw [drain] at asked; cases asked
  | dropped drop _ => rw [drop] at asked; cases asked

end Ledger

/-! ## Runs -/

section

variable {ops : List Operation} {registration : Registration}

/-- Who is in the table is a registration of the run. -/
theorem mem_made_of_mem {call : PendingCall} (member : call ∈ (run ops).table.pending) :
    ⟨call.id, call.serial⟩ ∈ made ops :=
  mem_made.mpr ((consistent_run ops).named call member)

/-- A registration that is pending has its call in the table. -/
theorem exists_mem_of_pending (given : registration ∈ made ops)
    (pending : (run ops).status registration.serial = .pending) :
    ∃ call ∈ (run ops).table.pending,
      call.id = registration.id ∧ call.serial = registration.serial := by
  obtain ⟨call, member, serial⟩ := Ledger.status_eq_pending_iff.mp pending
  refine ⟨call, member, (consistent_run ops).id_eq member ?_, serial⟩
  rw [serial]
  exact mem_made.mp given

/-- A registration is pending until an operation comes that concerns it. -/
theorem status_eq_pending_iff_unconcerned {before later : List Operation} {op : Operation}
    (made : (run before).made? op = some registration) :
    (run (before ++ op :: later)).status registration.serial = .pending ↔
      ∀ other ∈ later, other.fate? registration.id registration.serial = none := by
  have serial : registration.serial = (run before).ids.length :=
    (Ledger.made?_serial made).trans (consistent_run before).counted.symm
  have ids := Ledger.ids_perform_eq (run before) op
  rw [made, Option.map_some, Option.toList_some] at ids
  have stands : ((run before).perform op).1.ids[registration.serial]? = some registration.id := by
    rw [ids, serial]
    exact List.getElem?_concat_length
  have new : ((run before).perform op).1.status registration.serial = .pending :=
    Ledger.status_of_new (consistent_run before) (Nat.le_of_eq serial.symm) stands
  rw [run_append]
  show (((run before).perform op).1.performAll later).status _ = _ ↔ _
  rw [Ledger.status_performAll ((consistent_run before).perform op) later stands, new]
  show (later.findSome? _).getD _ = _ ↔ _
  rw [← List.findSome?_eq_none_iff]
  cases first : later.findSome? (·.fate? registration.id registration.serial) with
  | none => exact ⟨fun _ => rfl, fun _ => rfl⟩
  | some fate =>
    obtain ⟨other, -, hfate⟩ := List.exists_of_findSome?_eq_some first
    exact ⟨fun same => absurd same (Operation.fate?_ne_pending hfate), nofun⟩

end

/-- What the operations that name a registration do after a run. -/
structure SparesLater (ops : List Operation) : Prop where
  /-- The serial numbers count the registrations. -/
  counted : (made ops).map Registration.serial = List.range (made ops).length
  /-- No serial number is given twice, not even as a word of 64 bits. -/
  distinct : (made ops).length ≤ 2 ^ 64 → ((made ops).map fun r => UInt64.ofNat r.serial).Nodup
  /-- Every call in the table belongs to a registration. -/
  entries : ∀ call ∈ (run ops).table.pending, ⟨call.id, call.serial⟩ ∈ made ops
  /-- A registration is pending until an operation comes that concerns it. -/
  waits : ∀ before op later registration, ops = before ++ op :: later →
    (run before).made? op = some registration →
    ((run ops).status registration.serial = .pending ↔
      ∀ other ∈ later, other.fate? registration.id registration.serial = none)
  /-- A registration that is pending fails when it expires, and no other is touched. -/
  expires : ∀ registration ∈ made ops, (run ops).status registration.serial = .pending →
    ∀ error, (run ops).perform (.expire registration.id registration.serial error) =
      ({ run ops with table :=
          { pending := (run ops).table.pending.filter (·.serial != registration.serial)
            deliveries := (run ops).table.deliveries.set registration.serial
              (.fulfilled (.error error)) } },
        true)
  /-- A registration that is pending is taken out when it is abandoned, and no other is. -/
  abandons : ∀ registration ∈ made ops, (run ops).status registration.serial = .pending →
    ∃ call ∈ (run ops).table.pending,
      call.id = registration.id ∧ call.serial = registration.serial ∧
      (run ops).perform (.abandon registration.id registration.serial) =
        ({ run ops with
            table := { (run ops).table with
              pending := (run ops).table.pending.filter (·.serial != registration.serial) }
            kept := call :: (run ops).kept },
          true)
  /-- If no such registration was made, or it is not pending any more, nothing happens. -/
  spares : ∀ op named, op.named? = some named →
    ¬ (named ∈ made ops ∧ (run ops).status named.serial = .pending) →
    (run ops).perform op = (run ops, false)
  /-- So it is when the id was used again, whatever has become of the later registration. -/
  reused : ∀ op earlier later, op.named? = some earlier → later ∈ made ops →
    later.id = earlier.id → earlier.serial < later.serial → (run ops).perform op = (run ops, false)

/-- **A late timer spares the later calls**: an operation that names a registration by id and
serial number takes out that one, as long as it is pending, and nothing ever in its place. -/
theorem spares_later (ops : List Operation) : SparesLater ops where
  counted := map_serial_made ops
  distinct few := by
    have words : ((made ops).map fun r => UInt64.ofNat r.serial) =
        (List.range (made ops).length).map UInt64.ofNat := by
      rw [← map_serial_made, List.map_map]
      rfl
    rw [words]
    refine List.nodup_range.map_on fun a ha b hb same => ?_
    have fits : ∀ n ∈ List.range (made ops).length, (UInt64.ofNat n).toNat = n :=
      fun n member => UInt64.toNat_ofNat_of_lt' (Nat.lt_of_lt_of_le (List.mem_range.mp member) few)
    rw [← fits a ha, same, fits b hb]
  entries _ := mem_made_of_mem
  waits before op later registration split made := by
    rw [split]
    exact status_eq_pending_iff_unconcerned made
  expires registration given pending error := by
    obtain ⟨call, member, id, serial⟩ := exists_mem_of_pending given pending
    rw [← id, ← serial]
    exact Ledger.perform_expire (consistent_run ops) member error
  abandons registration given pending := by
    obtain ⟨call, member, id, serial⟩ := exists_mem_of_pending given pending
    refine ⟨call, member, id, serial, ?_⟩
    rw [← id, ← serial]
    exact Ledger.perform_abandon (consistent_run ops) member
  spares op named names gone := by
    refine Ledger.perform_of_named (consistent_run ops) names fun call member same => gone ?_
    rw [same]
    exact ⟨mem_made_of_mem member, Ledger.status_of_mem member⟩
  reused op earlier later names given again after := by
    refine Ledger.perform_of_named (consistent_run ops) names fun call member same => ?_
    rw [same] at again after
    have made := mem_made.mp given
    rw [again] at made
    exact (consistent_run ops).latest call member later.serial after made

/-- A timer for the first of two calls under one id spares the second one. -/
example :
    let ops : List Operation := [.register (.number 1) "a" 0, .cancel (.number 1),
      .register (.number 1) "b" 5]
    ((run ops).perform (.expire (.number 1) 0 .cancelled)).2 = false ∧
      ((run ops).perform (.expire (.number 1) 1 .cancelled)).2 = true := by
  decide

end LspClient.Correlator
