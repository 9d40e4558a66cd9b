import Mathlib.Data.List.Nodup
import Mathlib.Data.List.Perm.Subperm
import LspClient.Proofs.Session.Quiet

/-!
# A fresh id is found

A request that brings no id takes the next number that no outstanding call has, counting on
from the last one and round at the end of 64 bits. `freshId_free`: as long as fewer calls
are outstanding than there are numbers, one that is free is found, so such a request is
never refused for its id.
-/

namespace LspClient.Session

variable {s t : Session}

/-- Counting on by one more. -/
theorem add_one_add_ofNat (n : Int64) (i : Nat) :
    n + 1 + Int64.ofNat i = n + Int64.ofNat (i + 1) := by
  rw [Nat.add_comm i 1, Int64.ofNat_add, ← Int64.add_assoc]
  rfl

/-- If the number that is found is taken, so are all that were looked at. -/
theorem contains_of_freshFrom {fuel : Nat} {start : Int64}
    (h : s.correlator.contains (.number (s.freshFrom fuel start)) = true) :
    ∀ i ≤ fuel, s.correlator.contains (.number (start + Int64.ofNat i)) = true := by
  induction fuel generalizing start with
  | zero =>
    intro i hi
    rw [Nat.le_zero.mp hi]
    simpa [freshFrom] using h
  | succ fuel ih =>
    unfold freshFrom at h
    by_cases taken : s.correlator.contains (.number start) = true
    · rw [if_pos taken] at h
      intro i hi
      cases i with
      | zero => simpa using taken
      | succ i =>
        rw [← add_one_add_ofNat]
        exact ih h i (Nat.le_of_succ_le_succ hi)
    · rw [if_neg taken] at h
      exact absurd h taken

/-- Counting on from any number gives 2^64 different ones. -/
theorem ofNat_inj {i j : Nat} (hi : i < 2 ^ 64) (hj : j < 2 ^ 64)
    (h : Int64.ofNat i = Int64.ofNat j) : i = j := by
  have bits := congrArg (fun n : Int64 => n.toBitVec.toNat) h
  simp only [Int64.toBitVec_ofNat', BitVec.toNat_ofNat] at bits
  rwa [Nat.mod_eq_of_lt hi, Nat.mod_eq_of_lt hj] at bits

/-- There are more numbers than calls, so one of the next numbers is free. -/
theorem exists_free (room : s.correlator.size < 2 ^ 64) :
    ∃ i ≤ s.correlator.size, s.correlator.contains (.number (s.nextId + Int64.ofNat i)) = false := by
  by_contra none
  have all : ∀ i ≤ s.correlator.size,
      s.correlator.contains (.number (s.nextId + Int64.ofNat i)) = true := by
    intro i hi
    by_contra free
    exact none ⟨i, hi, Bool.eq_false_iff.mpr free⟩
  -- the numbers looked at are all different, and all of them are ids of outstanding calls
  let numbers : List RequestId :=
    (List.range (s.correlator.size + 1)).map fun i => .number (s.nextId + Int64.ofNat i)
  have different : numbers.Nodup := by
    refine List.Nodup.map_on ?_ List.nodup_range
    intro i hi j hj same
    rw [List.mem_range] at hi hj
    have same' : s.nextId + Int64.ofNat i = s.nextId + Int64.ofNat j := RequestId.number.inj same
    exact ofNat_inj (by omega) (by omega) ((Int64.add_right_inj _).mp same')
  have outstanding : numbers ⊆ s.correlator.pending.map PendingCall.id := by
    intro id hid
    obtain ⟨i, hi, rfl⟩ := List.mem_map.mp hid
    rw [List.mem_range] at hi
    obtain ⟨call, member, hcall⟩ := Correlator.contains_iff.mp (all i (by omega))
    exact List.mem_map.mpr ⟨call, member, hcall⟩
  have count := (different.subperm outstanding).length_le
  simp only [numbers, List.length_map, List.length_range] at count
  exact Nat.lt_irrefl _ count

theorem freshId_free (room : s.correlator.size < 2 ^ 64) :
    s.correlator.contains (.number s.freshId) = false := by
  by_contra taken
  rw [Bool.not_eq_false] at taken
  obtain ⟨i, bound, free⟩ := exists_free room
  rw [contains_of_freshFrom taken i (by omega)] at free
  cases free

/-- A registration fails only because the id that was brought is outstanding. -/
theorem register_eq_error (room : s.correlator.size < 2 ^ 64) {id? : Option RequestId}
    {method : String} {now : Nat} {e : CallError} (h : s.register id? method now = .error e) :
    ∃ id, id? = some id ∧ e = .duplicateId id ∧ s.correlator.contains id = true := by
  unfold register Correlator.register at h
  cases id? with
  | some id =>
    simp only [bind, Except.bind, pure, Except.pure] at h
    by_cases taken : s.correlator.contains id = true
    · rw [if_pos taken] at h
      cases h
      exact ⟨id, rfl, rfl, taken⟩
    · rw [if_neg taken] at h
      cases h
  | none =>
    simp only [bind, Except.bind, pure, Except.pure, freshId_free room] at h
    cases h

/-- The number that is found lies ahead, no farther than was looked, and those that were
skipped are ids of outstanding calls. -/
theorem freshFrom_eq (s : Session) (fuel : Nat) (start : Int64) :
    ∃ skipped ≤ fuel, s.freshFrom fuel start = start + Int64.ofNat skipped ∧
      ∀ i < skipped, s.correlator.contains (.number (start + Int64.ofNat i)) = true := by
  induction fuel generalizing start with
  | zero => exact ⟨0, Nat.le_refl 0, (Int64.add_zero start).symm, fun i hi => by omega⟩
  | succ fuel ih =>
    unfold freshFrom
    split
    · next taken =>
      obtain ⟨skipped, bound, found, between⟩ := ih (start + 1)
      refine ⟨skipped + 1, by omega, by rw [found, add_one_add_ofNat], fun i hi => ?_⟩
      cases i with
      | zero => simpa using taken
      | succ i =>
        rw [← add_one_add_ofNat]
        exact between i (by omega)
    · exact ⟨0, Nat.zero_le _, (Int64.add_zero start).symm, fun i hi => by omega⟩

/-- A request that brings no id takes the fresh one, and the counter goes past it. -/
theorem register_none {method : String} {now : Nat} {ticket : Ticket}
    (h : s.register none method now = .ok (t, ticket)) :
    ticket.id = .number s.freshId ∧ t.nextId = s.freshId + 1 := by
  unfold register at h
  simp only [bind, Except.bind] at h
  split at h
  · cases h
  · cases h
    exact ⟨rfl, rfl⟩

/-- A request that brings an id takes that one and leaves the counter alone. -/
theorem register_some {id : RequestId} {method : String} {now : Nat} {ticket : Ticket}
    (h : s.register (some id) method now = .ok (t, ticket)) :
    ticket.id = id ∧ t.nextId = s.nextId := by
  unfold register at h
  simp only [bind, Except.bind] at h
  split at h
  · cases h
  · cases h
    exact ⟨rfl, rfl⟩

end LspClient.Session
